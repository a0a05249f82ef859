import MGMDB.MyConnection.Session

/-!
# What a method may do

Most methods only use the handle and the character set the object has.  They are
made of a few parts, so a relation of states that these parts keep is kept by
every such method (`follows_perform`).  The others connect and disconnect, and a
property that both keep is kept by every method (`KeptByMethods.perform`).
-/

namespace MGMDB

namespace MyConnection

open Systems Program

/-! ## Using the handle -/

/-- The ways a command is sent and answered. -/
structure Sends (E : Environment) (P : (MYSQL → MYSQL) → Prop) : Prop where
  simple_command : ∀ n, P fun mysql => (mysql.simple_command (E.written n) (E.packet n)).2
  mysql_stat : ∀ n, P fun mysql =>
    (mysql.mysql_stat (E.written n) (E.packet n)).2
  query_and_store : ∀ n, P fun mysql => (mysql.query_and_store (E.written n) (E.reply n)).2
  mysql_list_processes : ∀ n, P fun mysql =>
    (mysql.mysql_list_processes (E.written n) (E.processReply n)).2

/-- A relation that the parts of the methods keep, but for quoting. -/
structure Respects (E : Environment) (R : State → State → Prop) : Prop where
  refl : ∀ s, R s s
  trans : ∀ s t u, R s t → R t u → R s u
  accessor : ∀ {α : Type} (read : Handle → α), Follows R (accessor read)
  simple_command : ∀ c, Follows R (simple_command E c)
  status : Follows R (status E)
  sendQuery : ∀ query, Follows R (sendQuery E query)
  listLike : ∀ text theName, Follows R (listLike E text theName)
  processes : Follows R (processes E)
  nullText : ∀ {α : Type} (c : Command), Follows R (nullText c : Method α)
  timeZone : ∀ zone, Follows R (modify fun s => { s with timeZone := zone } : Method Unit)
  logQuery : ∀ b, Follows R (modify fun s => { s with logQuery := b } : Method Unit)

/-- A relation that the parts of every method keep. -/
structure RespectsQuoting (E : Environment) (R : State → State → Prop) : Prop extends
    Respects E R where
  escapeString : ∀ theString, Follows R (escapeString theString)

/-- A relation that every command keeps that acts as `P` says, and every stored result. -/
structure RespectsCommands (E : Environment) (P : (MYSQL → MYSQL) → Prop)
    (R : State → State → Prop) : Prop where
  refl : ∀ s, R s s
  trans : ∀ s t u, R s t → R t u → R s u
  sends : Sends E P
  accessor : ∀ {α : Type} (read : Handle → α), Follows R (accessor read)
  command : ∀ {α : Type} (c : Command) (accepts : Bool) (send : MYSQL → α × MYSQL),
    P (fun mysql => (send mysql).2) → Follows R (command E c accepts send)
  nullText : ∀ {α : Type} (c : Command), Follows R (nullText c : Method α)
  stored : ∀ result,
    Follows R (modify fun s => { s with stored := result :: s.stored } : Method Unit)
  timeZone : ∀ zone, Follows R (modify fun s => { s with timeZone := zone } : Method Unit)
  logQuery : ∀ b, Follows R (modify fun s => { s with logQuery := b } : Method Unit)

theorem follows_orRaise {R : State → State → Prop} (hrefl : ∀ s, R s s) {α : Type}
    (x : Except NSException α) : Follows R (orRaise x) := by
  cases x with
  | ok a => exact Program.follows_pure hrefl _
  | error e => exact Program.follows_halt hrefl _

namespace RespectsCommands

variable {E : Environment} {P : (MYSQL → MYSQL) → Prop} {R : State → State → Prop}

/-- A program that looks at the state first. -/
theorem follows_get_bind (h : RespectsCommands E P R) {α : Type} {f : State → Method α}
    (hf : ∀ s, Follows R (f s)) : Follows R (get >>= f) :=
  (follows_get h.refl).bind h.trans hf

theorem follows_resultObject (h : RespectsCommands E P R) (source : Source)
    (theResult : Option MYSQL_RES) : Follows R (resultObject source theResult) := by
  cases theResult with
  | none => exact Program.follows_pure h.refl _
  | some result => exact (h.stored _).bind h.trans fun _ => follows_orRaise h.refl _

theorem follows_sendQuery (h : RespectsCommands E P R) (query : NSString) :
    Follows R (sendQuery E query) := by
  rw [sendQuery]
  cases UTF8String query with
  | none => exact h.nullText _
  | some bytes =>
      refine h.follows_get_bind fun s => ?_
      exact (h.command _ _ _ (h.sends.query_and_store s.clock)).bind h.trans
        (h.follows_resultObject _)

/-- It keeps what the methods are made of. -/
theorem respects (h : RespectsCommands E P R) : Respects E R where
  refl := h.refl
  trans := h.trans
  accessor := h.accessor
  simple_command c := h.follows_get_bind fun s => h.command c _ _ (h.sends.simple_command s.clock)
  status := by
    refine h.follows_get_bind fun s => ?_
    exact (h.command _ _ _ (h.sends.mysql_stat s.clock)).bind h.trans
      fun _ => Program.follows_pure h.refl _
  sendQuery := h.follows_sendQuery
  listLike text theName := by
    refine h.follows_get_bind fun s => ?_
    exact (h.command _ _ _ (h.sends.query_and_store s.clock)).bind h.trans
      (h.follows_resultObject _)
  processes := by
    refine h.follows_get_bind fun s => ?_
    exact (h.command _ _ _ (h.sends.mysql_list_processes s.clock)).bind h.trans
      (h.follows_resultObject _)
  nullText := h.nullText
  timeZone := h.timeZone
  logQuery := h.logQuery

end RespectsCommands

namespace Respects

variable {E : Environment} {R : State → State → Prop} {α : Type}

theorem follows_pure (h : Respects E R) (a : α) : Follows R (pure a : Method α) :=
  Program.follows_pure h.refl a

theorem follows_halt (h : Respects E R) (e : Halt) : Follows R (halt e : Method α) :=
  Program.follows_halt h.refl e

/-- A program that looks at the state first. -/
theorem follows_get_bind (h : Respects E R) {f : State → Method α} (hf : ∀ s, Follows R (f s)) :
    Follows R (get >>= f) :=
  (follows_get h.refl).bind h.trans hf

theorem follows_orRaise (h : Respects E R) (x : Except NSException α) : Follows R (orRaise x) :=
  MyConnection.follows_orRaise h.refl x

theorem follows_sendComposed (h : Respects E R) (composed : Except Query.Failure NSString) :
    Follows R (sendComposed E composed) := by
  cases composed with
  | error failure =>
      cases failure with
      | invalidFormat => exact h.follows_pure none
      | badArgument => exact h.follows_halt _
      | rangeException => exact h.follows_halt _
      | nilArgument => exact h.follows_halt _
  | ok query =>
      rw [sendComposed]
      split
      · exact h.follows_pure none
      · exact h.sendQuery query

/-- A query without arguments quotes nothing. -/
theorem follows_query_nil (h : Respects E R) (format : NSString) :
    Follows R (query E format []) := by
  rw [query, Query.quoted_nil]
  exact (h.follows_pure ()).bind h.trans fun _ => h.follows_sendComposed _

theorem follows_selectDataBase (h : Respects E R) (theDataBase : Option NSString) :
    Follows R (selectDataBase E theDataBase) := by
  rw [selectDataBase]
  split
  · exact h.follows_pure false
  · refine h.follows_get_bind fun s => ?_
    split
    · split
      · exact h.nullText _
      · exact (h.simple_command _).bind h.trans fun _ => h.follows_pure _
    · exact h.follows_pure true

theorem follows_killProcess (h : Respects E R) (processID : UInt64) :
    Follows R (killProcess E processID) :=
  (h.simple_command _).bind h.trans fun _ => h.follows_pure _

theorem follows_isConnected (h : Respects E R) : Follows R (isConnected E) := by
  refine h.follows_get_bind fun s => ?_
  split
  · exact (h.simple_command _).bind h.trans fun _ => h.follows_pure _
  · exact h.follows_pure false

theorem follows_serverTimeZone (h : Respects E R) (zones : Option Obj × Option Obj) :
    Follows R (serverTimeZone E zones) := by
  obtain ⟨systemTimeZone, myTimeZone⟩ := zones
  cases systemTimeZone with
  | some systemTimeZone => exact h.follows_pure _
  | none =>
      refine (h.follows_query_nil _).bind h.trans fun _ => h.follows_get_bind fun s => ?_
      split
      · exact h.follows_pure _
      · exact (h.follows_orRaise _).bind h.trans fun _ => h.follows_pure _

theorem follows_setTimeZone (h : Respects E R) (myTimeZone : Option Obj) :
    Follows R (setTimeZone E myTimeZone) := by
  cases myTimeZone with
  | none => exact h.follows_pure ()
  | some myTimeZone =>
      refine (h.timeZone none).bind h.trans fun _ => ?_
      split
      · exact h.timeZone _
      · exact h.follows_halt _

theorem follows_getTimeZone (h : Respects E R) : Follows R (getTimeZone E) := by
  refine h.follows_isConnected.bind h.trans fun connected => ?_
  split
  · refine (h.follows_query_nil _).bind h.trans fun _ => h.follows_get_bind fun s => ?_
    refine (h.follows_orRaise _).bind h.trans fun zones => ?_
    refine (h.follows_orRaise _).bind h.trans fun unset => ?_
    split
    · exact (h.follows_serverTimeZone zones).bind h.trans fun _ => h.follows_setTimeZone _
    · exact h.follows_setTimeZone _
  · exact h.follows_pure ()

theorem follows_stringOf (h : Respects E R) (read : Handle → Option CString) :
    Follows R (stringOf read) := by
  refine (h.accessor read).bind h.trans fun text => ?_
  split
  · exact h.follows_halt _
  · exact h.follows_pure _

/-- A function that reads the handle if there is a session. -/
theorem follows_guarded (h : Respects E R) {x : State → Method α} (hx : ∀ s, Follows R (x s))
    (a : α) : Follows R (do
      let s ← get
      if s.isConnected then x s else pure a : Method α) := by
  refine h.follows_get_bind fun s => ?_
  split
  · exact hx s
  · exact h.follows_pure a

end Respects

/-- Escaping looks for the characters of the set, and does nothing else. -/
theorem follows_escapeString {R : State → State → Prop} (hrefl : ∀ s, R s s)
    (hlook : ∀ s : State, R s { s with calls := .rangeOfCharacterFromSet s.escapeSet :: s.calls })
    (theString : Option NSString) : Follows R (escapeString theString) := by
  intro s
  cases theString with
  | none => exact hrefl s
  | some theString =>
      simp only [escapeString, record, bind_apply, get_apply, modify_apply]
      split
      · exact hlook s
      · exact hlook s

namespace RespectsQuoting

variable {E : Environment} {R : State → State → Prop}

theorem follows_quoteObject (h : RespectsQuoting E R) (o : Option Obj) :
    Follows R (quoteObject E o) :=
  (h.escapeString _).bind h.trans fun _ => h.follows_pure _

theorem follows_quoteChar (h : RespectsQuoting E R) (theChar : Option CString) :
    Follows R (quoteChar E theChar) := by
  cases theChar with
  | none => exact h.follows_halt _
  | some theChar => exact h.follows_quoteObject _

theorem follows_quoteEach (h : RespectsQuoting E R) (os : List (Option Obj)) :
    Follows R (quoteEach E os) := by
  induction os with
  | nil => exact h.follows_pure ()
  | cons o os ih => exact (h.follows_quoteObject o).bind h.trans fun _ => ih

theorem follows_query (h : RespectsQuoting E R) (format : NSString) (ap : List Arg) :
    Follows R (query E format ap) :=
  (h.follows_quoteEach _).bind h.trans fun _ => h.follows_sendComposed _

theorem follows_tablesFromDataBase (h : RespectsQuoting E R)
    (theDataBase theName : Option NSString) :
    Follows R (tablesFromDataBase E theDataBase theName) := by
  rw [tablesFromDataBase]
  split
  · exact h.follows_query _ _
  · exact h.follows_query _ _

theorem follows_columnsFromTable (h : RespectsQuoting E R) (theTable theName : Option NSString) :
    Follows R (columnsFromTable E theTable theName) := by
  rw [columnsFromTable]
  split
  · exact h.follows_query _ _
  · exact h.follows_query _ _

theorem follows_createDataBase (h : RespectsQuoting E R) (theDataBase : Option NSString) :
    Follows R (createDataBase E theDataBase) := by
  rw [createDataBase]
  split
  · exact h.follows_pure false
  · exact (h.follows_query _ _).bind h.trans fun _ => h.follows_pure _

theorem follows_deleteDataBase (h : RespectsQuoting E R) (theDataBase : Option NSString) :
    Follows R (deleteDataBase E theDataBase) := by
  rw [deleteDataBase]
  split
  · exact h.follows_pure false
  · exact (h.follows_query _ _).bind h.trans fun _ => h.follows_pure _

end RespectsQuoting

/-- The methods that do not connect, disconnect or end the object. -/
def Op.uses : Op → Bool
  | .connectWithHost _ _ _ _ | .connectWithSocket _ _ _ | .disconnect | .dealloc => false
  | _ => true

/-- The methods of these that quote nothing. -/
def Op.plain : Op → Bool
  | .escapeString _ | .quoteObject _ | .quoteChar _ | .query _ _ => false
  | .createDataBase _ | .deleteDataBase _ => false
  | .tablesFromDataBase _ _ | .columnsFromTable _ _ => false
  | op => op.uses

section
variable {E : Environment} {R : State → State → Prop} {op : Op}

theorem follows_perform_plain (h : Respects E R) (hop : op.plain = true) :
    Follows R (perform E op) := by
  have hreads : ∀ {α : Type} (read : Handle → α) (a : α), Follows R (do
      let s ← get
      if s.isConnected then accessor read else pure a : Method α) :=
    fun read a => h.follows_guarded (fun _ => h.accessor read) a
  cases op with
  | MySQLConnection => exact (follows_get h.refl).map h.trans h.refl _
  | isConnected => exact h.follows_isConnected.map h.trans h.refl _
  | errorMessage => exact (h.follows_guarded (fun s => h.accessor _) none).map h.trans h.refl _
  | errorID => exact (hreads _ 0).map h.trans h.refl _
  | escapeData => exact h.follows_pure _
  | logQuery => exact (follows_get h.refl).map h.trans h.refl _
  | setLogQuery b => exact (h.logQuery b).map h.trans h.refl _
  | affectedRows => exact (hreads _ 0).map h.trans h.refl _
  | insertId => exact (hreads _ 0).map h.trans h.refl _
  | selectDataBase name => exact (h.follows_selectDataBase name).map h.trans h.refl _
  | dataBasesLike name => exact (h.listLike _ name).map h.trans h.refl _
  | tablesLike name => exact (h.listLike _ name).map h.trans h.refl _
  | clientInfo => exact h.follows_pure _
  | hostInfo => exact (h.follows_stringOf _).map h.trans h.refl _
  | serverInfo =>
      exact (h.follows_guarded (fun _ => h.follows_stringOf _) none).map h.trans h.refl _
  | protoInfo => exact (h.accessor _).map h.trans h.refl _
  | status => exact h.status.map h.trans h.refl _
  | threadID => exact (h.accessor _).map h.trans h.refl _
  | processes => exact h.processes.map h.trans h.refl _
  | killProcess processID => exact (h.follows_killProcess processID).map h.trans h.refl _
  | timeZone => exact (follows_get h.refl).map h.trans h.refl _
  | getTimeZone => exact h.follows_getTimeZone.map h.trans h.refl _
  | _ => cases hop

/-- A relation that the parts keep is kept by every method made of them. -/
theorem follows_perform (h : RespectsQuoting E R) (hop : op.uses = true) :
    Follows R (perform E op) := by
  cases hplain : op.plain with
  | true => exact follows_perform_plain h.toRespects hplain
  | false =>
      cases op with
      | escapeString theString => exact (h.escapeString theString).map h.trans h.refl _
      | quoteObject o => exact (h.follows_quoteObject o).map h.trans h.refl _
      | quoteChar theChar => exact (h.follows_quoteChar theChar).map h.trans h.refl _
      | query format ap => exact (h.follows_query format ap).map h.trans h.refl _
      | createDataBase name => exact (h.follows_createDataBase name).map h.trans h.refl _
      | deleteDataBase name => exact (h.follows_deleteDataBase name).map h.trans h.refl _
      | tablesFromDataBase base name =>
          exact (h.follows_tablesFromDataBase base name).map h.trans h.refl _
      | columnsFromTable table name =>
          exact (h.follows_columnsFromTable table name).map h.trans h.refl _
      | connectWithHost => cases hop
      | connectWithSocket => cases hop
      | disconnect => cases hop
      | dealloc => cases hop
      | _ => cases hplain

end

/-- A call on the handle and with the character set that the object has. -/
inductive Call.OnOwn (pointer : Option Nat) (set : Bool) : Call → Prop where
  | accessor : OnOwn pointer set (.accessor pointer)
  | command (c : Command) (how : Ended) : OnOwn pointer set (.command pointer c how)
  | rangeOfCharacterFromSet : OnOwn pointer set (.rangeOfCharacterFromSet set)

/-- The object keeps its handle, its flag and its set, and uses no others. -/
structure Uses (s t : State) : Prop where
  alive : t.alive = s.alive
  MySQLConnection : t.MySQLConnection = s.MySQLConnection
  isConnected : t.isConnected = s.isConnected
  escapeSet : t.escapeSet = s.escapeSet
  allocated : t.allocated = s.allocated
  calls : ∃ l, t.calls = l ++ s.calls ∧ ∀ c ∈ l, c.OnOwn s.MySQLConnection s.escapeSet

namespace Uses

variable {s t u : State}

theorem refl (s : State) : Uses s s :=
  ⟨rfl, rfl, rfl, rfl, rfl, [], rfl, fun _ hc => absurd hc List.not_mem_nil⟩

theorem trans (h : Uses s t) (h' : Uses t u) : Uses s u where
  alive := h'.alive.trans h.alive
  MySQLConnection := h'.MySQLConnection.trans h.MySQLConnection
  isConnected := h'.isConnected.trans h.isConnected
  escapeSet := h'.escapeSet.trans h.escapeSet
  allocated := h'.allocated.trans h.allocated
  calls := by
    obtain ⟨l, hl, hown⟩ := h.calls
    obtain ⟨l', hl', hown'⟩ := h'.calls
    rw [h.MySQLConnection, h.escapeSet] at hown'
    refine ⟨l' ++ l, by rw [hl', hl, List.append_assoc], ?_⟩
    intro c hc
    rcases List.mem_append.mp hc with hc | hc
    · exact hown' c hc
    · exact hown c hc

/-- One call, and nothing else that is kept. -/
theorem of_call {c : Call} (hc : c.OnOwn s.MySQLConnection s.escapeSet)
    (halive : t.alive = s.alive) (hpointer : t.MySQLConnection = s.MySQLConnection)
    (hconnected : t.isConnected = s.isConnected) (hset : t.escapeSet = s.escapeSet)
    (hallocated : t.allocated = s.allocated) (hcalls : t.calls = c :: s.calls) : Uses s t where
  alive := halive
  MySQLConnection := hpointer
  isConnected := hconnected
  escapeSet := hset
  allocated := hallocated
  calls := ⟨[c], hcalls, by simpa using hc⟩

end Uses

theorem commands_uses (E : Environment) : RespectsCommands E (fun _ => True) Uses where
  refl := Uses.refl
  trans _ _ _ := Uses.trans
  sends := ⟨fun _ => trivial, fun _ => trivial, fun _ => trivial, fun _ => trivial⟩
  accessor read s := by
    rw [accessor]
    cases hp : s.MySQLConnection with
    | none => exact .of_call .accessor rfl hp.symm rfl rfl rfl (by rw [hp])
    | some h => exact .of_call .accessor rfl hp.symm rfl rfl rfl (by rw [hp])
  command c accepts send _ s := by
    rw [command]
    cases hp : s.MySQLConnection with
    | none => exact .of_call (.command c _) rfl hp.symm rfl rfl rfl (by rw [hp])
    | some h =>
        dsimp only
        split
        · exact .of_call (.command c _) rfl hp.symm rfl rfl rfl (by rw [hp])
        · exact .of_call (.command c _) rfl hp.symm rfl rfl rfl (by rw [hp])
  nullText c s := .of_call (.command c _) rfl rfl rfl rfl rfl rfl
  stored _ s := ⟨rfl, rfl, rfl, rfl, rfl, (Uses.refl s).calls⟩
  timeZone _ s := ⟨rfl, rfl, rfl, rfl, rfl, (Uses.refl s).calls⟩
  logQuery _ s := ⟨rfl, rfl, rfl, rfl, rfl, (Uses.refl s).calls⟩

theorem respects_uses (E : Environment) : RespectsQuoting E Uses where
  toRespects := (commands_uses E).respects
  escapeString := follows_escapeString Uses.refl fun _ =>
    .of_call .rangeOfCharacterFromSet rfl rfl rfl rfl rfl rfl

/-! ## Connecting and disconnecting -/

/-- The state after a session that may be open is closed. -/
def closed (s : State) : State :=
  if s.isConnected then
    { s with
      MySQLConnection := none
      isConnected := false
      calls := .mysql_close s.MySQLConnection :: s.calls }
  else s

/-- The state after a handle was asked for, if there was none. -/
def initialised (E : Environment) (s : State) : State :=
  if s.MySQLConnection = none then (mysql_init E s).2 else s

/-- The state in which the connect methods look at their arguments. -/
def reopened (E : Environment) (s : State) : State := initialised E (closed s)

/-- The state after `mysql_real_connect` on the handle `h`. -/
def attempted (E : Environment) (arguments : Arguments) (h : Nat) (s : State) : State :=
  let tried := (s.memory h).mysql_real_connect (E.mysql_real_connect s.clock)
  { s with
    isConnected := tried.1
    memory := Function.update s.memory h tried.2
    clock := s.clock + 1
    calls := .mysql_real_connect (some h) arguments tried.1 :: s.calls }

section
variable {E : Environment} {s : State}

theorem disconnect_apply (s : State) : disconnect s = (.ok (), closed s) := by
  cases h : s.isConnected with
  | false => simp [disconnect, bind_apply, closed, h]
  | true => simp [disconnect, bind_apply, closed, h, mysql_close]

theorem dealloc_apply (s : State) :
    dealloc s = (.ok (), { closed s with isConnected := s.isConnected, alive := false }) := by
  cases h : s.isConnected with
  | false => simp [dealloc, bind_apply, closed, h]
  | true => simp [dealloc, bind_apply, closed, h, mysql_close]

theorem reopen_apply (E : Environment) (s : State) : reopen E s = (.ok (), reopened E s) := by
  have hinit : ∀ t : State, (if t.MySQLConnection = none then mysql_init E else pure ()) t =
      (.ok (), initialised E t) := by
    intro t
    rw [initialised]
    split
    · rfl
    · rfl
  rw [reopened]
  cases h : s.isConnected with
  | false =>
      rw [closed, h]
      simp [reopen, bind_apply, h, hinit]
  | true =>
      rw [closed, h]
      simp only [reopen, bind_apply, get_apply, h, if_true, modify_apply, mysql_close]
      rfl

theorem mysql_real_connect_apply {h : Nat} (hp : s.MySQLConnection = some h)
    (arguments : Arguments) :
    mysql_real_connect E arguments s =
      (.ok (attempted E arguments h s).isConnected,
        { attempted E arguments h s with isConnected := s.isConnected }) := by
  simp only [mysql_real_connect, hp, attempted]

/-- What the last part of a connect method does on the handle `h`. -/
inductive Establishes (E : Environment) (s : State) (h : Nat) :
    Except Halt Bool → State → Prop where
  | refused {arguments : Arguments} : (attempted E arguments h s).isConnected = false →
      Establishes E s h (.ok false) (attempted E arguments h s)
  | accepted {arguments : Arguments} {t : State} : (attempted E arguments h s).isConnected = true →
      getTimeZone E (attempted E arguments h s) = (.ok (), t) →
      Establishes E s h (.ok t.isConnected) t
  | halted {arguments : Arguments} {e : Halt} {t : State} :
      (attempted E arguments h s).isConnected = true →
      getTimeZone E (attempted E arguments h s) = (.error e, t) →
      Establishes E s h (.error e) t

theorem establish_establishes {h : Nat} (hp : s.MySQLConnection = some h)
    (arguments : Arguments) :
    Establishes E s h (establish E arguments s).1 (establish E arguments s).2 := by
  have hestablish : establish E arguments s =
      (do
        if (attempted E arguments h s).isConnected then getTimeZone E
        let s ← get
        return s.isConnected : Method Bool) (attempted E arguments h s) := by
    rw [establish, bind_of_ok (mysql_real_connect_apply hp arguments)]
    rfl
  rw [hestablish]
  cases hc : (attempted E arguments h s).isConnected with
  | false =>
      simp only [Bool.false_eq_true, if_false, bind_apply, get_apply, pure_apply, hc]
      exact .refused hc
  | true =>
      simp only [if_true, bind_apply]
      cases hzone : getTimeZone E (attempted E arguments h s) with
      | mk result t =>
        cases result with
        | ok u => exact .accepted hc hzone
        | error e => exact .halted hc hzone

/-- What a connect method does: it gets no handle, or has no host to connect to, or
connects. -/
inductive Connects (E : Environment) (s : State) : Except Halt Bool → State → Prop where
  | noHandle : (reopened E s).MySQLConnection = none →
      Connects E s (.ok (reopened E s).isConnected) (reopened E s)
  | noHost {h : Nat} : (reopened E s).MySQLConnection = some h →
      Connects E s (.ok false) (reopened E s)
  | tried {h : Nat} {result : Except Halt Bool} {t : State} :
      (reopened E s).MySQLConnection = some h → Establishes E (reopened E s) h result t →
      Connects E s result t

theorem connectWithHost_connects (E : Environment) (theHost : Option NSString) (thePort : Int32)
    (theUsername thePassword : Option NSString) (s : State) :
    Connects E s (connectWithHost E theHost thePort theUsername thePassword s).1
      (connectWithHost E theHost thePort theUsername thePassword s).2 := by
  rw [connectWithHost, bind_of_ok (reopen_apply E s)]
  simp only [bind_apply, get_apply]
  cases hp : (reopened E s).MySQLConnection with
  | none =>
      simp only [if_true, pure_apply]
      exact .noHandle hp
  | some h =>
      simp only [reduceCtorEq, if_false]
      split
      · exact .noHost hp
      · exact .tried hp (establish_establishes hp _)

theorem connectWithSocket_connects (E : Environment)
    (theSocket theUsername thePassword : Option NSString) (s : State) :
    Connects E s (connectWithSocket E theSocket theUsername thePassword s).1
      (connectWithSocket E theSocket theUsername thePassword s).2 := by
  rw [connectWithSocket, bind_of_ok (reopen_apply E s)]
  simp only [bind_apply, get_apply]
  cases hp : (reopened E s).MySQLConnection with
  | none =>
      simp only [if_true, pure_apply]
      exact .noHandle hp
  | some h =>
      simp only [reduceCtorEq, if_false]
      exact .tried hp (establish_establishes hp _)

theorem closed_alive (s : State) : (closed s).alive = s.alive := by
  rw [closed]
  split <;> rfl

theorem closed_isConnected (s : State) : (closed s).isConnected = false := by
  rw [closed]
  split
  next => rfl
  next h => simpa using h

theorem initialised_isConnected (E : Environment) (s : State) :
    (initialised E s).isConnected = s.isConnected := by
  rw [initialised]
  split
  · rw [mysql_init, modify_apply]
    split <;> rfl
  · rfl

theorem initialised_alive (E : Environment) (s : State) : (initialised E s).alive = s.alive := by
  rw [initialised]
  split
  · rw [mysql_init, modify_apply]
    split <;> rfl
  · rfl

theorem reopened_isConnected (E : Environment) (s : State) :
    (reopened E s).isConnected = false :=
  (initialised_isConnected E (closed s)).trans (closed_isConnected s)

theorem reopened_alive (E : Environment) (s : State) : (reopened E s).alive = s.alive :=
  (initialised_alive E (closed s)).trans (closed_alive s)

/-- A connect method ends in one of three states: where it looks at its arguments, behind an
attempt to connect, or behind the queries for the time zone. -/
theorem Connects.kept {I : State → Prop} {result : Except Halt Bool} {t : State}
    (hc : Connects E s result t) (hreopened : I (reopened E s))
    (hattempted : ∀ p arguments, (reopened E s).MySQLConnection = some p →
      I (attempted E arguments p (reopened E s)))
    (hzone : ∀ p arguments result u, (reopened E s).MySQLConnection = some p →
      getTimeZone E (attempted E arguments p (reopened E s)) = (result, u) →
      I (attempted E arguments p (reopened E s)) → I u) : I t := by
  cases hc with
  | noHandle => exact hreopened
  | noHost => exact hreopened
  | tried hp he =>
      cases he with
      | refused => exact hattempted _ _ hp
      | accepted _ hrun => exact hzone _ _ _ _ hp hrun (hattempted _ _ hp)
      | halted _ hrun => exact hzone _ _ _ _ hp hrun (hattempted _ _ hp)

theorem Connects.alive {result : Except Halt Bool} {t : State} (h : Connects E s result t) :
    t.alive = s.alive := by
  have hzone := (respects_uses E).follows_getTimeZone
  rw [← reopened_alive E s]
  refine h.kept (I := fun t => t.alive = (reopened E s).alive) rfl (fun _ _ _ => rfl) ?_
  intro p arguments result u _ hrun hattempted
  exact (hzone.of_run hrun).alive.trans hattempted

end

/-! ## Runs -/

/-- What holds of every object behind its initialiser. -/
structure Creates (E : Environment) (I : State → Prop) : Prop where
  init : I (init E State.blank).2
  escapeSet : ∀ s, I s → I { s with escapeSet := true }
  connects : ∀ s result t, Connects E s result t → s.alive = true → I s → I t

/-- What holds of every object that was just made. -/
structure Starts (E : Environment) (I : State → Prop) : Prop extends Creates E I where
  gone : ∀ s, I s → I { s with alive := false }

/-- What the methods keep. -/
structure KeptByMethods (E : Environment) (I : State → Prop) : Prop where
  uses : ∀ s op, op.uses = true → s.alive = true → I s → I (perform E op s).2
  connects : ∀ s result t, Connects E s result t → s.alive = true → I s → I t
  closed : ∀ s, s.alive = true → I s → I (closed s)
  dealloc : ∀ s, s.alive = true → I s → I (dealloc s).2

/-- What holds of every object, whatever its methods do. -/
structure Kept (E : Environment) (I : State → Prop) : Prop extends
  Starts E I, KeptByMethods E I

section
variable {E : Environment} {I : State → Prop}

namespace Creates

/-- An initialiser that connects. -/
theorem create_connect (h : Creates E I) {connect : Method Bool}
    (hc : ∀ s, Connects E s (connect s).1 (connect s).2) :
    I (((do
      MyConnection.init E
      let _ ← connect
      modify fun s => { s with escapeSet := true }) : Method Unit) State.blank).2 := by
  have hinit := h.init
  have hconnect := h.connects _ _ _ (hc (MyConnection.init E State.blank).2) rfl hinit
  have hfirst : MyConnection.init E State.blank =
      (.ok (), (MyConnection.init E State.blank).2) := rfl
  rw [bind_of_ok hfirst, bind_apply]
  split
  next hrun =>
    rw [hrun] at hconnect
    exact h.escapeSet _ hconnect
  next hrun =>
    rw [hrun] at hconnect
    exact hconnect

theorem create (h : Creates E I) (creation : Creation) : I (create E creation State.blank).2 := by
  cases creation with
  | init => exact h.init
  | initWithHost theHost thePort theUsername thePassword =>
      exact h.create_connect (connectWithHost_connects E _ _ _ _)
  | initWithSocket theSocket theUsername thePassword =>
      exact h.create_connect (connectWithSocket_connects E _ _ _)

end Creates

theorem Starts.start (h : Starts E I) (creation : Creation) : I (start E creation) := by
  have hcreate := h.toCreates.create creation
  rw [MyConnection.start]
  split
  next hrun =>
    rw [hrun] at hcreate
    exact hcreate
  next hrun =>
    rw [hrun] at hcreate
    exact h.gone _ hcreate

theorem KeptByMethods.perform (h : KeptByMethods E I) (op : Op) {s : State}
    (halive : s.alive = true) (hs : I s) :
    I (perform E op s).2 := by
  cases hop : op.uses with
  | true => exact h.uses s op hop halive hs
  | false =>
      cases op with
      | connectWithHost theHost thePort theUsername thePassword =>
          rw [MyConnection.perform, map_snd]
          exact h.connects s _ _ (connectWithHost_connects E _ _ _ _ s) halive hs
      | connectWithSocket theSocket theUsername thePassword =>
          rw [MyConnection.perform, map_snd]
          exact h.connects s _ _ (connectWithSocket_connects E _ _ _ s) halive hs
      | disconnect =>
          rw [MyConnection.perform, map_snd, disconnect_apply]
          exact h.closed s halive hs
      | dealloc =>
          rw [MyConnection.perform, map_snd]
          exact h.dealloc s halive hs
      | _ => cases hop

namespace Kept

theorem survived (h : Kept E I) {outcome : Except Halt Value × State} (hs : I outcome.2) :
    I (survived outcome) := by
  obtain ⟨result, s⟩ := outcome
  cases result with
  | ok value => exact hs
  | error e =>
    cases e with
    | crashed => exact h.gone s hs
    | raised => exact hs

theorem after (h : Kept E I) (creation : Creation) (ops : List Op) : I (after E creation ops) := by
  refine Machine.run_invariant ?_ _ ops (h.toStarts.start creation)
  intro s op hs
  rw [object]
  dsimp only
  split
  next halive => exact h.survived (h.toKeptByMethods.perform op halive hs)
  next => exact hs

end Kept

end

section
variable {E : Environment} {creation : Creation} {ops : List Op}

/-- The answer of a living object to a method that returns. -/
theorem step_of_map {s : State} {op : Op} {α : Type} {x : Method α} {f : α → Value}
    (hop : perform E op = f <$> x) (halive : s.alive = true) {a : α} (h : (x s).1 = .ok a) :
    ((object E).step s op).1 = some (.ok (f a)) := by
  have hrun : perform E op s = (.ok (f a), (x s).2) := by
    rw [hop]
    exact map_of_ok (Prod.ext h rfl) f
  simp [object, halive, hrun]

/-- A run with one more call. -/
theorem after_concat (halive : (after E creation ops).alive = true) (op : Op) :
    after E creation (ops ++ [op]) = survived (perform E op (after E creation ops)) := by
  rw [after, Machine.run_append]
  show ((object E).step (after E creation ops) op).2 = _
  rw [object]
  simp only [halive, if_true]

theorem after_dealloc (halive : (after E creation ops).alive = true) :
    after E creation (ops ++ [.dealloc]) =
      { closed (after E creation ops) with
        isConnected := (after E creation ops).isConnected, alive := false } := by
  have hrun : perform E .dealloc (after E creation ops) = (.ok .void, _) :=
    map_eq_ok.mpr ⟨(), dealloc_apply _, rfl⟩
  rw [after_concat halive, hrun]
  rfl

end

end MyConnection

end MGMDB
