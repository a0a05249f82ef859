import MGMDB.MySQL.Replies
import MGMDB.Systems.Machine

/-!
# The client of answers and the client of packets

`MYSQL` takes the answers of the server as they are meant, and `Client` reads them from
packets.  They behave alike: as long as the network yields the packets of the answers,
every request has the same result in both, over a whole session, and also after
errors, after a loss of the session and for requests that come too early
(`Refines.whole_session`).
-/

namespace MGMDB

open Framing Systems Program

variable {σ : Type} {T : Transport σ} {c : Client σ} {m : MYSQL} {s t : σ}

/-! ## The relation -/

/-- `c` and `m` are in the same state, and the network of `c` is in the state `rest` when
the rows that were announced have been read. -/
structure Refines (T : Transport σ) (c : Client σ) (m : MYSQL) (rest : σ) : Prop where
  vio : c.vio = m.vio
  status : c.status = m.status
  fields : c.fields = m.fields.map Announced.fields
  affected_rows : c.affected_rows = m.affected_rows
  insert_id : c.insert_id = m.insert_id
  last_errno : c.last_errno = m.last_errno
  last_error : c.last_error = m.last_error
  gone : m.vio = false → m.fields = none
  more_results : m.vio = true → m.status = .ready → m.more_results = moreResults c.server_status
  idle : m.vio = true → m.status = .ready → c.net = rest
  pending : m.vio = true → m.status = .get_result → c.last_errno ≠ ER_NET_PACKET_TOO_LARGE ∧
    ∃ announced, m.fields = some announced ∧ SendsRows T c.net announced.data rest

/-- A run of `c` has the result of `m`, as far as `view` shows it, and they are in the same
state again. -/
inductive Matches (T : Transport σ) (rest : σ) {α β : Type} (view : α → β) :
    Except Fault α × Client σ → Option β × MYSQL → Prop where
  | ok {a : α} {c : Client σ} {m : MYSQL} : Refines T c m rest →
      Matches T rest view (.ok a, c) (some (view a), m)
  | failed {c : Client σ} {m : MYSQL} : Refines T c m rest →
      Matches T rest view (.error .failed, c) (none, m)

theorem Refines.set_mysql_error (h : Refines T c m s) {errcode : Nat}
    (hne : errcode ≠ ER_NET_PACKET_TOO_LARGE) :
    Refines T (c.set_mysql_error errcode) (m.set_mysql_error errcode) s :=
  { h with
    last_errno := rfl
    last_error := rfl
    pending := fun hvio hstatus => ⟨hne, (h.pending hvio hstatus).2⟩ }

theorem moreResults_cleared (status : UInt16) :
    moreResults (status &&& ~~~SERVER_MORE_RESULTS_EXISTS) = false := by
  have hclear : ~~~SERVER_MORE_RESULTS_EXISTS &&& SERVER_MORE_RESULTS_EXISTS = 0 := by decide
  rw [moreResults, UInt16.and_assoc, hclear, UInt16.and_zero]
  rfl

/-- A session that is at rest, or not open. -/
theorem Refines.mk' {net : σ} (hvio : c.vio = m.vio) (hstatus : c.status = m.status)
    (hfields : c.fields = m.fields.map Announced.fields)
    (haffected : c.affected_rows = m.affected_rows) (hinsert : c.insert_id = m.insert_id)
    (herrno : c.last_errno = m.last_errno) (herror : c.last_error = m.last_error)
    (hgone : m.vio = false → m.fields = none)
    (hidle : m.vio = true → m.status = .ready ∧ m.more_results = moreResults c.server_status ∧
      c.net = net) : Refines T c m net where
  vio := hvio
  status := hstatus
  fields := hfields
  affected_rows := haffected
  insert_id := hinsert
  last_errno := herrno
  last_error := herror
  gone := hgone
  more_results hlive _ := (hidle hlive).2.1
  idle hlive _ := (hidle hlive).2.2
  pending hlive hresult := by
    rw [(hidle hlive).1] at hresult
    cases hresult

/-! ## Commands -/

/-- How the network takes a command, and what it does then. -/
def Transport.Asked (T : Transport σ) (command : UInt8) (arg : List UInt8) (s : σ)
    (Answer : σ → σ → Prop) (t : σ) : Written → Prop
  | .written => ∃ u, T.command command arg s = (.ok (), u) ∧ Answer u t
  | .tooLarge => T.command command arg s = (.error (.failed true), t)
  | .failed => T.command command arg s = (.error (.failed false), t)

/-- A session that may be used is asked, and from the others nothing gets to the network. -/
structure Transport.Serves (T : Transport σ) (m : MYSQL) (command : UInt8) (arg : List UInt8)
    (s : σ) (w : Written) (Answer : σ → σ → Prop) (t : σ) : Prop where
  asked : m.Ready → T.Asked command arg s Answer t w
  refused : ¬ m.Ready → t = s

namespace MYSQL

/-- The session after a command has been written. -/
def begun (m : MYSQL) : MYSQL := { m.net_clear_error with affected_rows := ~~~0 }

/-- A command, and what is done with its answer. -/
def after {α : Type} (m : MYSQL) (w : Written) (f : MYSQL → Option α × MYSQL) : Option α × MYSQL :=
  match m.cli_advanced_command w with
  | (true, m) => (none, m)
  | (false, m) => f m

theorem cli_advanced_command_refused (h : ¬ m.Ready) (w : Written) :
    m.cli_advanced_command w = (true, m.set_mysql_error
      (if m.vio = false then CR_SERVER_GONE_ERROR else CR_COMMANDS_OUT_OF_SYNC)) := by
  rw [cli_advanced_command]
  split
  next => rfl
  next hvio =>
    have hlive := Bool.eq_true_of_not_eq_false hvio
    rw [if_pos]
    by_contra hnot
    obtain ⟨hstatus, hmore⟩ := not_or.mp hnot
    exact h ⟨hlive, Decidable.not_not.mp hstatus, Bool.eq_false_of_not_eq_true hmore⟩

theorem cli_advanced_command_ready (h : m.Ready) (w : Written) :
    m.cli_advanced_command w =
      match w with
      | .written => (false, m.begun)
      | .tooLarge => (true, m.begun.set_mysql_error CR_NET_PACKET_TOO_LARGE)
      | .failed => (true, m.begun.end_server.set_mysql_error CR_SERVER_GONE_ERROR) := by
  have hgone : m.vio ≠ false := by rw [h.vio]; decide
  have hready : ¬ (m.status ≠ .ready ∨ m.more_results = true) := by
    rintro (hstatus | hmore)
    · exact hstatus h.status
    · rw [h.more_results] at hmore
      cases hmore
  rw [cli_advanced_command, if_neg hgone, if_neg hready]
  rfl

end MYSQL

/-- The client after a command has been written. -/
def Client.begun (c : Client σ) (net : σ) : Client σ :=
  { c.net_clear_error with affected_rows := ~~~0, net := net }

theorem Refines.moreResults_ready (h : Refines T c m s) (hready : m.Ready) :
    moreResults c.server_status = false :=
  (h.more_results hready.vio hready.status).symm.trans hready.more_results

theorem Refines.cli_advanced_command_ready (h : Refines T c m s) (hready : m.Ready)
    (command : UInt8) (arg : List UInt8) :
    Client.cli_advanced_command T command arg c =
      match T.command command arg s with
      | (.ok (), net) => (.ok (), c.begun net)
      | (.error .waits, net) => (.error .waits, c.begun net)
      | (.error (.failed true), net) =>
          (.error .failed, (c.begun net).set_mysql_error CR_NET_PACKET_TOO_LARGE)
      | (.error (.failed false), net) => (.error .failed, (c.begun net).end_server.gone) := by
  have hmore := of_decide_eq_false (h.moreResults_ready hready)
  have hvio : ¬ (!c.vio) = true := by rw [h.vio, hready.vio]; decide
  have hsync : ¬ (c.status ≠ .ready ∨ c.server_status &&& SERVER_MORE_RESULTS_EXISTS ≠ 0) := by
    rintro (hstatus | hbit)
    · exact hstatus (h.status.trans hready.status)
    · exact hmore hbit
  rw [Client.cli_advanced_command, if_neg hvio, if_neg hsync,
    ← h.idle hready.vio hready.status]
  rfl

/-- A command that is refused. -/
theorem Refines.refused (h : Refines T c m s) (hready : ¬ m.Ready) (command : UInt8)
    (arg : List UInt8) (w : Written) :
    ∃ m' c', m.cli_advanced_command w = (true, m') ∧
      Client.cli_advanced_command T command arg c = (.error .failed, c') ∧ Refines T c' m' s := by
  rw [MYSQL.cli_advanced_command_refused hready]
  cases hvio : m.vio with
  | false =>
      refine ⟨_, c.gone, rfl, ?_, ?_⟩
      · rw [Client.cli_advanced_command, h.vio, hvio]
        rfl
      · exact .mk' h.vio h.status h.fields h.affected_rows h.insert_id rfl rfl h.gone
          fun hlive => absurd hlive (by rw [MYSQL.set_mysql_error, hvio]; decide)
  | true =>
      refine ⟨_, c.set_mysql_error CR_COMMANDS_OUT_OF_SYNC, rfl, ?_,
        h.set_mysql_error (by decide)⟩
      have hsync : c.status ≠ .ready ∨ c.server_status &&& SERVER_MORE_RESULTS_EXISTS ≠ 0 := by
        by_contra hnot
        obtain ⟨hstatus, hbit⟩ := not_or.mp hnot
        have hstatus := h.status.symm.trans (Decidable.not_not.mp hstatus)
        have hmore := h.more_results hvio hstatus
        rw [moreResults, decide_eq_false hbit] at hmore
        exact hready ⟨hvio, hstatus, hmore⟩
      have hlive : ¬ (!c.vio) = true := by rw [h.vio, hvio]; decide
      rw [Client.cli_advanced_command, if_neg hlive, if_pos hsync]

/-- A command and what comes after it. -/
theorem Refines.command (h : Refines T c m s) {command : UInt8} {arg : List UInt8} {w : Written}
    {Answer : σ → σ → Prop} (hserves : T.Serves m command arg s w Answer t) {α β : Type}
    {view : α → β} {x : Client.Call σ α} {f : MYSQL → Option β × MYSQL}
    (hnext : ∀ u, m.Ready → Answer u t → Refines T (c.begun u) m.begun u →
      Matches T t view (x (c.begun u)) (f m.begun)) :
    Matches T t view ((Client.cli_advanced_command T command arg >>= fun _ => x) c)
      (m.after w f) := by
  by_cases hready : m.Ready
  · have hbegun : ∀ net, Refines T (c.begun net) m.begun net := fun net =>
      .mk' h.vio h.status h.fields rfl h.insert_id rfl rfl h.gone fun hlive =>
        ⟨hready.status, h.more_results hready.vio hready.status, rfl⟩
    have hasked := hserves.asked hready
    have hcommand := h.cli_advanced_command_ready hready command arg
    rw [MYSQL.after, MYSQL.cli_advanced_command_ready hready]
    cases w with
    | written =>
        obtain ⟨u, hwrite, hanswer⟩ := hasked
        rw [hwrite] at hcommand
        rw [bind_of_ok hcommand]
        exact hnext u hready hanswer (hbegun u)
    | tooLarge =>
        rw [show T.command command arg s = _ from hasked] at hcommand
        rw [bind_of_error hcommand]
        exact .failed ((hbegun t).set_mysql_error (by decide))
    | failed =>
        rw [show T.command command arg s = _ from hasked] at hcommand
        rw [bind_of_error hcommand]
        exact .failed (.mk' rfl h.status rfl rfl h.insert_id rfl rfl (fun _ => rfl)
          fun hlive => by cases hlive)
  · obtain ⟨m', c', hm, hc, hrefines⟩ := h.refused hready command arg w
    rw [MYSQL.after, hm, bind_of_error hc, hserves.refused hready]
    exact .failed hrefines

/-! ## Answers -/

theorem zero_ne_tooLarge : 0 ≠ ER_NET_PACKET_TOO_LARGE := by decide

theorem hostInfo_ne_tooLarge : CR_WRONG_HOST_INFO ≠ ER_NET_PACKET_TOO_LARGE := by decide

/-- A session of which nothing is known any more. -/
theorem Refines.lost (hstatus : c.status = m.status) (haffected : c.affected_rows = m.affected_rows)
    (hinsert : c.insert_id = m.insert_id) (hne : c.last_errno ≠ ER_NET_PACKET_TOO_LARGE) :
    Refines T (c.lost false) m.lost t := by
  have herrno : ¬ (false = true ∨ c.last_errno = ER_NET_PACKET_TOO_LARGE) := by
    rintro (h | h)
    · cases h
    · exact hne h
  exact .mk' rfl hstatus rfl haffected hinsert (if_neg herrno) (congrArg ER (if_neg herrno))
    (fun _ => rfl) fun hlive => by cases hlive

/-- A live session after an error of the server. -/
theorem Refines.failedWith (h : Refines T c m s) (hstatus : m.status = .ready) (errno : Nat)
    (text : CString) :
    Refines T ({ c with net := t }.failedWith errno text) (m.error_packet errno text) t :=
  .mk' h.vio h.status h.fields h.affected_rows h.insert_id rfl rfl h.gone fun _ =>
    ⟨hstatus, (moreResults_cleared _).symm, rfl⟩

section
variable (h : Refines T c m s) (hvio : m.vio = true)
include h hvio

theorem Refines.safe_read_error (hstatus : m.status = .ready) {errno : Nat} {text : CString}
    (hsends : SendsError T c.net errno text t) :
    ∃ c', Client.cli_safe_read T c = (.error .failed, c') ∧
      Refines T c' (m.error_packet errno text) t :=
  ⟨_, Client.cli_safe_read_sent (h.vio.trans hvio) hsends, h.failedWith hstatus errno text⟩

theorem Refines.safe_read_lost (hne : c.last_errno ≠ ER_NET_PACKET_TOO_LARGE)
    (hloses : T.Loses c.net t) : ∃ c', Client.cli_safe_read T c = (.error .failed, c') ∧
      Refines T c' m.lost t :=
  ⟨_, Client.cli_safe_read_lost (h.vio.trans hvio) hloses,
    .lost h.status h.affected_rows h.insert_id hne⟩

end

/-- The answer of `cli_read_query_result`. -/
def succeeded : Bool × MYSQL → Option Unit × MYSQL
  | (true, m) => (none, m)
  | (false, m) => (some (), m)

theorem Refines.read_fields (h : Refines T c m s) (hvio : m.vio = true)
    (hne : c.last_errno ≠ ER_NET_PACKET_TOO_LARGE) {u : σ} (announced : Announced)
    (hrows : SendsRows T t announced.data u) (c' : Client σ)
    (hc : c'.vio = c.vio ∧ c'.net = t ∧ c'.affected_rows = c.affected_rows ∧
      c'.insert_id = c.insert_id ∧ c'.last_errno = c.last_errno ∧ c'.last_error = c.last_error) :
    Refines T (c'.announced announced.fields)
      { m with status := .get_result, fields := some announced } u where
  vio := hc.1.trans h.vio
  status := rfl
  fields := rfl
  affected_rows := hc.2.2.1.trans h.affected_rows
  insert_id := hc.2.2.2.1.trans h.insert_id
  last_errno := hc.2.2.2.2.1.trans h.last_errno
  last_error := hc.2.2.2.2.2.trans h.last_error
  gone hgone := by rw [show m.vio = false from hgone] at hvio; cases hvio
  more_results _ hstatus := by cases hstatus
  idle _ hstatus := by cases hstatus
  pending _ _ := ⟨fun heq => hne (hc.2.2.2.2.1.symm.trans heq), announced, rfl, hc.2.1 ▸ hrows⟩

/-- `cli_read_query_result` of an answer. -/
theorem Refines.read_query_result (h : Refines T c m s) (hvio : m.vio = true)
    (hstatus : m.status = .ready) (hne : c.last_errno ≠ ER_NET_PACKET_TOO_LARGE) {reply : Reply}
    (hsends : SendsReply T c.net reply t) :
    Matches T t id (Client.cli_read_query_result T c)
      (succeeded (m.cli_read_query_result reply)) := by
  have hlive := h.vio.trans hvio
  generalize hnet : c.net = net at hsends
  subst hnet
  cases hsends with
  | ok ok hread =>
      rw [Client.cli_read_query_result_ok hlive hread]
      exact .ok (.mk' h.vio h.status rfl rfl rfl h.last_errno h.last_error (fun _ => rfl) fun _ =>
        ⟨hstatus, rfl, rfl⟩)
  | @columns net' _ fields data hfields hrows =>
      obtain ⟨net, warnings, status, hrun⟩ := Client.cli_read_query_result_fields hlive hfields
      rw [hrun]
      exact .ok (h.read_fields hvio hne ⟨fields, data⟩ hrows _ ⟨rfl, rfl, rfl, rfl, rfl, rfl⟩)
  | error herror =>
      obtain ⟨c', hread, hrefines⟩ := h.safe_read_error hvio hstatus herror
      rw [Client.cli_read_query_result_of_error hread]
      exact .failed hrefines
  | lost hloses =>
      obtain ⟨c', hread, hrefines⟩ := h.safe_read_lost hvio hne hloses
      rw [Client.cli_read_query_result_of_error hread]
      exact .failed hrefines

/-- `mysql_query` of a session in any state. -/
theorem Refines.mysql_query (h : Refines T c m s) {query : CString} {w : Written} {reply : Reply}
    (hserves : T.Serves m COM_QUERY query.val s w (SendsReply T · reply) t) :
    Matches T t id (Client.mysql_query T query c) (succeeded (m.mysql_query w reply)) := by
  have hafter : succeeded (m.mysql_query w reply) =
      m.after w fun m => succeeded (m.cli_read_query_result reply) := by
    rw [MYSQL.mysql_query, MYSQL.after]
    cases m.cli_advanced_command w with
    | mk failed m => cases failed <;> rfl
  rw [hafter]
  exact h.command hserves fun u hready hanswer hbegun =>
    hbegun.read_query_result hready.vio hready.status zero_ne_tooLarge hanswer

/-! ## Tables -/

/-- The columns and the rows of a table. -/
def MYSQL_RES.table (res : MYSQL_RES) : List MYSQL_FIELD × List MYSQL_ROW := (res.fields, res.data)

/-- The same, with the values that the row methods copy out of the buffers. -/
def Client.Stored.table (stored : Client.Stored) : List MYSQL_FIELD × List MYSQL_ROW :=
  (stored.fields, stored.data.map (copyRow 0))

theorem map_copyRow_storeRow (data : List MYSQL_ROW) :
    (data.map (storeRow · 0)).map (copyRow 0) = data := by
  have hcopy : copyRow 0 ∘ (storeRow · 0) = id := funext fun row => copyRow_storeRow row 0
  rw [List.map_map, hcopy, List.map_id]

/-- The rows are read behind the columns. -/
theorem Client.mysql_store_result_announced (T : Transport σ) {fields : List MYSQL_FIELD}
    (hfields : c.fields = some fields) (hstatus : c.status = .get_result) :
    Client.mysql_store_result T c =
      match Client.cli_read_rows T fields.length { c with status := .ready } with
      | (.error fault, c) => (.error fault, c)
      | (.ok data, c) => (.ok ⟨fields, data⟩,
          { c with affected_rows := .ofNat data.length, fields := none }) := by
  rw [Client.mysql_store_result, hfields]
  exact if_neg fun hne => hne hstatus

/-- `mysql_store_result` of a session in any state. -/
theorem Refines.mysql_store_result (h : Refines T c m s) :
    Matches T s Client.Stored.table (Client.mysql_store_result T c)
      (m.mysql_store_result.1.map MYSQL_RES.table, m.mysql_store_result.2) := by
  have hfields := h.fields
  rw [MYSQL.mysql_store_result]
  cases hm : m.fields with
  | none =>
      rw [hm] at hfields
      have hrun : Client.mysql_store_result T c = (.error .failed, c) := by
        rw [Client.mysql_store_result, hfields]
        rfl
      rw [hrun]
      exact .failed h
  | some announced =>
      rw [hm] at hfields
      have hvio : m.vio = true := by
        by_contra hgone
        rw [h.gone (Bool.eq_false_of_not_eq_true hgone)] at hm
        cases hm
      by_cases hstatus : m.status = .get_result
      · obtain ⟨hne, announced', hann, hrows⟩ := h.pending hvio hstatus
        obtain rfl := Option.some.inj (hm.symm.trans hann)
        have hrun := Client.mysql_store_result_announced T hfields (h.status.trans hstatus)
        have hlive : { c with status := mysql_status.ready }.vio = true := h.vio.trans hvio
        dsimp only
        rw [if_neg fun hne => hne hstatus]
        generalize hdata : announced.data = data at hrows
        cases hrows with
        | @rows _ data hlength warnings status hsendable hgives =>
            have hdata := fun row hmem => And.intro (hlength row hmem) (hsendable row hmem)
            rw [Client.cli_read_rows_sent hlive hdata hgives] at hrun
            have htable : (MYSQL_RES.stored announced.fields data hlength).table =
                Client.Stored.table ⟨announced.fields, data.map (storeRow · 0)⟩ := by
              rw [Client.Stored.table, map_copyRow_storeRow]
              rfl
            rw [hrun]
            dsimp only
            rw [Option.map_some, htable]
            refine .ok (.mk' h.vio rfl rfl ?_ h.insert_id h.last_errno h.last_error (fun _ => rfl)
              fun _ => ⟨rfl, rfl, rfl⟩)
            rw [List.length_map]
        | @error net _ data errno text hall hgives herror =>
            rw [Client.cli_read_rows_failed hlive hall hgives herror] at hrun
            rw [hrun]
            exact .failed (.mk' h.vio rfl hfields h.affected_rows h.insert_id rfl rfl
              (fun hgone => absurd hvio (by rw [show m.vio = false from hgone]; decide))
              fun _ => ⟨rfl, (moreResults_cleared _).symm, rfl⟩)
        | @lost net _ data hall hgives hloses =>
            rw [Client.cli_read_rows_lost hlive hall hgives hloses] at hrun
            rw [hrun]
            exact .failed (.lost rfl h.affected_rows h.insert_id hne)
      · have hrun : Client.mysql_store_result T c =
            (.error .failed, c.set_mysql_error CR_COMMANDS_OUT_OF_SYNC) := by
          rw [Client.mysql_store_result, hfields]
          exact if_pos fun hget => hstatus (h.status.symm.trans hget)
        rw [hrun]
        dsimp only
        rw [if_pos hstatus]
        exact .failed (h.set_mysql_error (by decide))

/-! ## Requests -/

/-- `simple_command`, whatever is asked. -/
theorem Refines.simple_command (h : Refines T c m s) {command : UInt8} {arg : List UInt8}
    {w : Written} {packet : Packet}
    (hserves : T.Serves m command arg s w (SendsPacket T · packet) t) :
    Matches T t id (Client.simple_command T command arg c) (m.simple_command w packet) := by
  refine h.command hserves fun u hready hanswer hbegun => ?_
  generalize hnet : (c.begun u).net = net
  obtain rfl : u = net := hnet
  cases hanswer with
  | ok hne hplain hread =>
      rw [Client.cli_safe_read_ok (hbegun.vio.trans hready.vio) hread hne hplain]
      exact .ok (.mk' hbegun.vio hbegun.status hbegun.fields rfl hbegun.insert_id rfl rfl hbegun.gone
        fun hlive => ⟨hready.status, hbegun.more_results hlive hready.status, rfl⟩)
  | error herror =>
      obtain ⟨c', hread, hrefines⟩ := hbegun.safe_read_error hready.vio hready.status herror
      rw [hread]
      exact .failed hrefines
  | lost hloses =>
      obtain ⟨c', hread, hrefines⟩ := hbegun.safe_read_lost hready.vio zero_ne_tooLarge hloses
      rw [hread]
      exact .failed hrefines

/-- A failure that is told to the caller. -/
def Client.attempt {α : Type} (x : Client.Call σ α) : Client.Call σ (Option α) := fun c =>
  match x c with
  | (.ok a, c) => (.ok (some a), c)
  | (.error .failed, c) => (.ok none, c)
  | (.error fault, c) => (.error fault, c)

theorem Matches.attempt {α β : Type} {view : α → β} {x : Client.Call σ α}
    {result : Option β × MYSQL}
    (h : Matches T t view (x c) result) :
    ∃ a c', Client.attempt x c = (.ok a, c') ∧ a.map view = result.1 ∧ Refines T c' result.2 t := by
  rw [Client.attempt]
  generalize x c = run at h
  cases h with
  | @ok a c' m h => exact ⟨some a, c', rfl, rfl, h⟩
  | @failed c' m h => exact ⟨none, c', rfl, rfl, h⟩

/-- `mysql_stat`, also after a failure. -/
theorem Refines.mysql_stat (h : Refines T c m s) {w : Written} {packet : Packet}
    (hserves : T.Serves m COM_STATISTICS [] s w (SendsPacket T · packet) t) :
    ∃ c', Client.mysql_stat T c = (.ok (m.mysql_stat w packet).1, c') ∧
      Refines T c' (m.mysql_stat w packet).2 t := by
  have hcommand := h.simple_command hserves
  rw [Client.mysql_stat, MYSQL.mysql_stat]
  generalize Client.simple_command T COM_STATISTICS [] c = run at hcommand ⊢
  generalize m.simple_command w packet = result at hcommand ⊢
  cases hcommand with
  | @ok bytes c' m' h' =>
      dsimp only [id_eq]
      by_cases hzero : bytes.headD 0 = 0
      · rw [if_pos hzero, if_pos hzero]
        exact ⟨_, rfl, h'.set_mysql_error hostInfo_ne_tooLarge⟩
      · rw [if_neg hzero, if_neg hzero]
        exact ⟨_, rfl, h'⟩
  | @failed c' m' h' =>
      have htext : (.ok c'.last_error : Except Fault CString) = .ok m'.last_error :=
        congrArg Except.ok h'.last_error
      exact ⟨c', Prod.ext htext rfl, h'⟩

/-- `mysql_list_processes` behind its command. -/
theorem MYSQL.mysql_list_processes_after (m : MYSQL) (w : Written) (reply : ProcessReply) :
    ((m.mysql_list_processes w reply).1.map MYSQL_RES.table,
      (m.mysql_list_processes w reply).2) = m.after w fun m =>
        match reply with
        | .columns announced =>
            let m := { m with status := .get_result, fields := some announced }
            (m.mysql_store_result.1.map MYSQL_RES.table, m.mysql_store_result.2)
        | .error errno text => (none, m.error_packet errno text)
        | .lost => (none, m.lost) := by
  rw [MYSQL.mysql_list_processes, MYSQL.after]
  cases m.cli_advanced_command w with
  | mk failed m =>
    cases failed with
    | true => rfl
    | false => cases reply <;> rfl

/-- `mysql_list_processes` of a session in any state. -/
theorem Refines.mysql_list_processes (h : Refines T c m s) {w : Written} {reply : ProcessReply}
    (hserves : T.Serves m COM_PROCESS_INFO [] s w (SendsProcesses T · reply) t) :
    Matches T t Client.Stored.table (Client.mysql_list_processes T c)
      ((m.mysql_list_processes w reply).1.map MYSQL_RES.table,
        (m.mysql_list_processes w reply).2) := by
  rw [m.mysql_list_processes_after, Client.mysql_list_processes, Client.simple_command, bind_assoc]
  refine h.command hserves fun u hready hanswer hbegun => ?_
  have hlive := hbegun.vio.trans hready.vio
  generalize hnet : (c.begun u).net = net
  obtain rfl : u = net := hnet
  cases hanswer with
  | @columns net _ announced hfields hrows =>
      obtain ⟨packet, net', count, extra, hread, hcount, -, -, hfields⟩ :=
        Client.cli_safe_read_fields hlive hfields
      obtain ⟨warnings, status, hfields⟩ :=
        hfields { c.begun u with net := net' }.free_old_query hlive rfl
      have hkept := hbegun.read_fields hready.vio zero_ne_tooLarge announced hrows
        ({ c.begun u with net := net' }.free_old_query.ended net warnings status)
        ⟨rfl, rfl, rfl, rfl, rfl, rfl⟩
      rw [bind_of_ok hread, bind_of_ok (modify_apply _ _), hcount]
      dsimp only
      rw [bind_of_ok hfields]
      exact hkept.mysql_store_result
  | error herror =>
      obtain ⟨c', hread, hrefines⟩ := hbegun.safe_read_error hready.vio hready.status herror
      rw [bind_of_error hread]
      exact .failed hrefines
  | lost hloses =>
      obtain ⟨c', hread, hrefines⟩ := hbegun.safe_read_lost hready.vio zero_ne_tooLarge hloses
      rw [bind_of_error hread]
      exact .failed hrefines

/-! ## Sessions -/

/-- A request, and what the socket and the server are going to do about it. -/
inductive Exchange where
  | query (query : CString) (w : Written) (reply : Reply)
  | store
  | command (command : UInt8) (arg : List UInt8) (w : Written) (packet : Packet)
  | stat (w : Written) (packet : Packet)
  | processes (w : Written) (reply : ProcessReply)

/-- What the caller of a request gets. -/
inductive Output where
  | done (succeeded : Option Unit)
  | table (table : Option (List MYSQL_FIELD × List MYSQL_ROW))
  | bytes (bytes : Option NSData)
  | text (text : CString)

/-- A request in terms of answers. -/
def MYSQL.perform (m : MYSQL) : Exchange → Output × MYSQL
  | .query _ w reply =>
      (.done (succeeded (m.mysql_query w reply)).1, (succeeded (m.mysql_query w reply)).2)
  | .store => (.table (m.mysql_store_result.1.map MYSQL_RES.table), m.mysql_store_result.2)
  | .command _ _ w packet => (.bytes (m.simple_command w packet).1, (m.simple_command w packet).2)
  | .stat w packet => (.text (m.mysql_stat w packet).1, (m.mysql_stat w packet).2)
  | .processes w reply =>
      (.table ((m.mysql_list_processes w reply).1.map MYSQL_RES.table),
        (m.mysql_list_processes w reply).2)

/-- A request in terms of packets. -/
def Client.perform (T : Transport σ) : Exchange → Client.Call σ Output
  | .query query _ _ => .done <$> attempt (mysql_query T query)
  | .store => (fun stored => .table (stored.map Stored.table)) <$> attempt (mysql_store_result T)
  | .command command arg _ _ => .bytes <$> attempt (simple_command T command arg)
  | .stat _ _ => .text <$> mysql_stat T
  | .processes _ _ =>
      (fun stored => .table (stored.map Stored.table)) <$> attempt (mysql_list_processes T)

/-- The network does with a request what it is going to do, and is in the state `t` when
the answer has been read. -/
def Transport.Performs (T : Transport σ) (m : MYSQL) (s : σ) : Exchange → σ → Prop
  | .query query w reply, t => T.Serves m COM_QUERY query.val s w (SendsReply T · reply) t
  | .store, t => t = s
  | .command command arg w packet, t => T.Serves m command arg s w (SendsPacket T · packet) t
  | .stat w packet, t => T.Serves m COM_STATISTICS [] s w (SendsPacket T · packet) t
  | .processes w reply, t => T.Serves m COM_PROCESS_INFO [] s w (SendsProcesses T · reply) t

/-- A request has the same result in both clients. -/
theorem Refines.perform (h : Refines T c m s) {e : Exchange} (hperforms : T.Performs m s e t) :
    ∃ c', Client.perform T e c = (.ok (m.perform e).1, c') ∧ Refines T c' (m.perform e).2 t := by
  cases e with
  | query query w reply =>
      obtain ⟨a, c', hrun, hresult, hrefines⟩ := (h.mysql_query hperforms).attempt
      rw [Option.map_id, id] at hresult
      exact ⟨c', map_eq_ok.mpr ⟨a, hrun, congrArg Output.done hresult⟩, hrefines⟩
  | store =>
      obtain ⟨a, c', hrun, hresult, hrefines⟩ := h.mysql_store_result.attempt
      obtain rfl : t = s := hperforms
      exact ⟨c', map_eq_ok.mpr ⟨a, hrun, congrArg Output.table hresult⟩, hrefines⟩
  | command command arg w packet =>
      obtain ⟨a, c', hrun, hresult, hrefines⟩ := (h.simple_command hperforms).attempt
      rw [Option.map_id, id] at hresult
      exact ⟨c', map_eq_ok.mpr ⟨a, hrun, congrArg Output.bytes hresult⟩, hrefines⟩
  | stat w packet =>
      obtain ⟨c', hrun, hrefines⟩ := h.mysql_stat hperforms
      exact ⟨c', map_eq_ok.mpr ⟨_, hrun, rfl⟩, hrefines⟩
  | processes w reply =>
      obtain ⟨a, c', hrun, hresult, hrefines⟩ := (h.mysql_list_processes hperforms).attempt
      exact ⟨c', map_eq_ok.mpr ⟨a, hrun, congrArg Output.table hresult⟩, hrefines⟩

/-- A session in terms of answers. -/
def MYSQL.machine : Machine MYSQL Exchange Output := ⟨MYSQL.perform⟩

/-- A session in terms of packets. -/
def Client.session (T : Transport σ) : List Exchange → Client.Call σ (List Output)
  | [] => pure []
  | e :: es => do
      let output ← perform T e
      let outputs ← session T es
      pure (output :: outputs)

/-- The network does so with every request of a session. -/
inductive Transport.Session (T : Transport σ) : MYSQL → σ → List Exchange → σ → Prop where
  | nil (m : MYSQL) (s : σ) : Session T m s [] s
  | cons {m : MYSQL} {s t u : σ} {e : Exchange} {es : List Exchange} : T.Performs m s e t →
      Session T (m.perform e).2 t es u → Session T m s (e :: es) u

/-- A network that takes every command and yields packets that are there already. -/
def Transport.scripted : Transport (List (List UInt8)) where
  command _ _ packets := (.ok (), packets)
  my_net_read
    | [] => (.error .waits, [])
    | packet :: packets => (.ok packet, packets)
  size := List.length
  read_lt {packets rest packet} h := by
    cases packets with
    | nil => cases h
    | cons first packets =>
        cases h
        exact Nat.lt_succ_self _

/-- A column of integers. -/
def Description.id : Description where
  field := ⟨cString [105, 100], .long, NUM_FLAG⟩
  row := [some [100, 101, 102], some [], some [], some [], some [105, 100], some [], some
    [63, 0, 11, 0, 0, 0, 3, 0, 0, 0]]
  pos := [63, 0, 11, 0, 0, 0, 3, 0, 0, 0]
  sendable := ⟨List.cons_ne_nil _ _, by simp [Short], by decide⟩
  row_length := rfl
  name := rfl
  last := rfl
  length := by decide
  type := rfl
  flags := by decide

/-- A session of which nothing is asked yet. -/
def MYSQL.rested : MYSQL := ⟨true, .ready, false, none, 0, 0, 0, cString []⟩

/-- The same, in front of a network. -/
def Client.rested (net : σ) : Client σ := ⟨net, true, .ready, 0, 0, none, 0, 0, 0, cString []⟩

theorem moreResults_zero : moreResults 0 = false := by decide

theorem refines_rested (net : σ) :
    Refines T (Client.rested net) MYSQL.rested net :=
  .mk' rfl rfl rfl rfl rfl rfl rfl (fun h => by cases h) fun _ => ⟨rfl, moreResults_zero.symm, rfl⟩

theorem Transport.scripted_gives (packets rest : List (List UInt8)) :
    scripted.Gives (packets ++ rest) packets rest := by
  induction packets with
  | nil => exact .nil rest
  | cons packet packets ih => exact .cons rfl ih

/-- All requests of a session have the same results in both clients. -/
theorem Refines.whole_session (h : Refines T c m s) {es : List Exchange}
    (hsession : T.Session m s es t) :
    ∃ c', Client.session T es c = (.ok (MYSQL.machine.run m es).1, c') ∧
      Refines T c' (MYSQL.machine.run m es).2 t := by
  induction hsession generalizing c with
  | nil => exact ⟨c, rfl, h⟩
  | cons hperforms _ ih =>
      obtain ⟨c', hfirst, hrefines⟩ := h.perform hperforms
      obtain ⟨c'', hrest, hlast⟩ := ih hrefines
      exact ⟨c'', by rw [Client.session, bind_of_ok hfirst, bind_of_ok hrest]; rfl, hlast⟩

/-- A table is queried and stored. -/
theorem Refines.whole_session_table :
    ∃ c', Client.session .scripted
      [.query (cString [83]) .written
        (.columns [Description.id.field] (.rows [[some [55]]] (by decide) false)), .store]
      (Client.rested [columnsPacket 1 [], rowPacket Description.id.row, eofPacket 0 2,
        rowPacket [some [55]], eofPacket 0 2]) =
      (.ok [.done (some ()), .table (some ([Description.id.field], [[some [55]]]))], c') ∧
      c'.status = .ready := by
  have hfields : SendsFields .scripted _ [Description.id.field] _ :=
    @SendsFields.fields _ .scripted _ _ [Description.id] [] 0 2 (List.cons_ne_nil _ _) (by decide)
      (Transport.scripted_gives _ [rowPacket [some [55]], eofPacket 0 2])
  have hsendable : Sendable [some [(55 : UInt8)]] :=
    ⟨List.cons_ne_nil _ _, by simp [Short], by decide⟩
  have hrows : SendsRows .scripted [rowPacket [some [55]], eofPacket 0 2]
      (.rows [[some [55]]] (by decide) (moreResults 2) : RowData 1) [] :=
    .rows (List.forall_mem_singleton.mpr hsendable)
      (Transport.scripted_gives [rowPacket [some [55]], eofPacket 0 2] [])
  have hquery : Transport.scripted.Serves MYSQL.rested COM_QUERY (cString [83]).val _ .written
      (SendsReply .scripted · (.columns [Description.id.field] _)) [] :=
    ⟨fun _ => ⟨_, rfl, .columns hfields hrows⟩, fun h => absurd ⟨rfl, rfl, rfl⟩ h⟩
  have hsession : Transport.scripted.Session MYSQL.rested _ [.query _ _ _, .store] [] :=
    .cons hquery (.cons rfl (.nil _ _))
  obtain ⟨c', hrun, hrefines⟩ := Refines.whole_session (refines_rested _) hsession
  exact ⟨c', hrun, hrefines.status⟩

end MGMDB
