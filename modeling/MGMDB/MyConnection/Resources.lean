import MGMDB.MyConnection.Drained

/-!
# Handles and character sets that are missing

Some methods ask whether there is a session before they use the handle.  Others
use it always, and pass NULL to the library when there is none.  The character
set is made by the initialisers that connect, and the plain one leaves it nil, so
such an object cannot quote a string.  `Allowed` says when a method is given
nothing that is missing, and `allSound_after_iff` that a run is free of such
calls exactly if all its steps are allowed.
-/

namespace MGMDB

namespace MyConnection

open Systems Program

/-- A call that is given what it needs: a handle where the library reads it, and a
character set to look for. -/
def Call.Sound : Call → Prop
  | .mysql_real_connect handle _ _ | .accessor handle | .command handle _ _ => handle ≠ none
  | .rangeOfCharacterFromSet set => set = true
  | .mysql_init _ | .mysql_close _ => True

/-- All calls are given what they need. -/
def AllSound (calls : List Call) : Prop := ∀ c ∈ calls, c.Sound

/-! ## What a method needs -/

/-- The query a method makes of its arguments. -/
def Op.asks : Op → Option (NSString × List Arg)
  | .query format ap => some (format, ap)
  | .createDataBase theDataBase =>
      if theDataBase.getD [] = [] then none
      else some (lit "CREATE DATABASE %@", [.object (theDataBase.map .string)])
  | .deleteDataBase theDataBase =>
      if theDataBase.getD [] = [] then none
      else some (lit "DROP DATABASE %@", [.object (theDataBase.map .string)])
  | .tablesFromDataBase theDataBase theName =>
      if theName.getD [] = [] then
        some (lit "SHOW TABLES FROM %!", [.object (theDataBase.map .string)])
      else
        some (lit "SHOW TABLES FROM %! LIKE %@",
          [.object (theDataBase.map .string), .object (theName.map .string)])
  | .columnsFromTable theTable theName =>
      if theName.getD [] = [] then
        some (lit "SHOW COLUMNS FROM %!", [.object (theTable.map .string)])
      else
        some (lit "SHOW COLUMNS FROM %! LIKE %@",
          [.object (theTable.map .string), .object (theName.map .string)])
  | _ => none

/-- The objects a method quotes. -/
def Op.quotes (F : Foundation) : Op → List (Option Obj)
  | .escapeString theString => [theString.map .string]
  | .quoteObject theObject => [theObject]
  | .quoteChar theChar => [(theChar.bind stringWithUTF8String).map .string]
  | op =>
      match op.asks with
      | some (format, ap) => Query.quoted F (MGMMyConnection.quoter F) format ap
      | none => []

/-- A method uses the handle without asking for a session: it reads it or sends a
command, or makes a query with a text. -/
def Op.NeedsHandle (F : Foundation) : Op → Prop
  | .hostInfo | .protoInfo | .threadID | .status | .processes | .killProcess _ => True
  | .dataBasesLike _ | .tablesLike _ => True
  | op => ∃ format ap query, op.asks = some (format, ap) ∧
      MGMMyConnection.queryText F format ap = .ok query ∧ query ≠ []

/-- The objects are quoted without a character set that is nil. -/
def CanQuote (F : Foundation) (s : State) (os : List (Option Obj)) : Prop :=
  ∀ o ∈ os, escapedText F o ≠ none → s.escapeSet = true

/-- A method of which nothing is asked that the object does not have. -/
structure Allowed (E : Environment) (s : State) (op : Op) : Prop where
  quotes : CanQuote E.foundation s (op.quotes E.foundation)
  handle : op.NeedsHandle E.foundation → s.MySQLConnection ≠ none

/-! ## Methods that quote nothing -/

/-- The object uses the handle and the set it has, and if there is a handle, no
call misses one. -/
structure Calm (s t : State) : Prop where
  uses : Uses s t
  sound : s.MySQLConnection ≠ none → AllSound s.calls → AllSound t.calls

section
variable {E : Environment} {s t : State} {α : Type}

theorem AllSound.cons {c : Call} {calls : List Call} (h : AllSound calls) (hc : c.Sound) :
    AllSound (c :: calls) :=
  List.forall_mem_cons.mpr ⟨hc, h⟩

theorem Uses.calls_suffix (h : Uses s t) : s.calls <:+ t.calls := by
  obtain ⟨l, hl, -⟩ := h.calls
  exact ⟨l, hl.symm⟩

theorem accessor_none (read : Handle → α) (hp : s.MySQLConnection = none) :
    accessor read s = (.error .crashed, { s with calls := .accessor none :: s.calls }) := by
  rw [accessor, hp]

theorem command_none (c : Command) (accepts : Bool) (send : MYSQL → α × MYSQL)
    (hp : s.MySQLConnection = none) :
    command E c accepts send s =
      (.error .crashed, { s with calls := .command none c .failed :: s.calls }) := by
  rw [command, hp]

theorem commands_calm (E : Environment) : RespectsCommands E (fun _ => True) Calm where
  refl s := ⟨.refl s, fun _ => id⟩
  trans _ _ _ hst htu :=
    ⟨hst.uses.trans htu.uses, fun hp hs =>
      htu.sound (hst.uses.MySQLConnection ▸ hp) (hst.sound hp hs)⟩
  sends := (commands_uses E).sends
  accessor read s := by
    refine ⟨(commands_uses E).accessor read s, ?_⟩
    intro hp hs
    rw [accessor]
    cases hsome : s.MySQLConnection with
    | none => exact absurd hsome hp
    | some h => exact hs.cons (Option.some_ne_none h)
  command c accepts send htrue s := by
    refine ⟨(commands_uses E).command c accepts send htrue s, ?_⟩
    intro hp hs
    rw [command]
    cases hsome : s.MySQLConnection with
    | none => exact absurd hsome hp
    | some h =>
        dsimp only
        split
        · exact hs.cons (Option.some_ne_none h)
        · exact hs.cons (Option.some_ne_none h)
  nullText c s := ⟨(commands_uses E).nullText c s, fun hp hs => hs.cons hp⟩
  stored result s := ⟨(commands_uses E).stored result s, fun _ hs => hs⟩
  timeZone zone s := ⟨(commands_uses E).timeZone zone s, fun _ hs => hs⟩
  logQuery b s := ⟨(commands_uses E).logQuery b s, fun _ hs => hs⟩

theorem respects_calm (E : Environment) : Respects E Calm := (commands_calm E).respects

/-- Without a session the methods that ask for one do nothing. -/
theorem calls_of_not_connected {op : Op} (hop : op.plain = true)
    (hneeds : ¬ op.NeedsHandle E.foundation) (hfree : s.isConnected = false) :
    (perform E op s).2.calls = s.calls := by
  cases op with
  | isConnected => simp [perform, map_snd, isConnected, bind_apply, hfree]
  | errorMessage => simp [perform, map_snd, errorMessage, bind_apply, hfree]
  | errorID => simp [perform, map_snd, errorID, bind_apply, hfree]
  | affectedRows => simp [perform, map_snd, affectedRows, bind_apply, hfree]
  | insertId => simp [perform, map_snd, insertId, bind_apply, hfree]
  | serverInfo => simp [perform, map_snd, serverInfo, bind_apply, hfree]
  | getTimeZone => simp [perform, map_snd, getTimeZone, isConnected, bind_apply, hfree]
  | selectDataBase theDataBase =>
      rw [perform, map_snd, selectDataBase]
      split
      · rfl
      · simp [bind_apply, hfree]
  | MySQLConnection => rfl
  | escapeData => rfl
  | logQuery => rfl
  | setLogQuery => rfl
  | clientInfo => rfl
  | timeZone => rfl
  | hostInfo => exact absurd trivial hneeds
  | protoInfo => exact absurd trivial hneeds
  | threadID => exact absurd trivial hneeds
  | status => exact absurd trivial hneeds
  | processes => exact absurd trivial hneeds
  | killProcess => exact absurd trivial hneeds
  | dataBasesLike => exact absurd trivial hneeds
  | tablesLike => exact absurd trivial hneeds
  | _ => cases hop

theorem asks_of_plain {op : Op} (hop : op.plain = true) : op.asks = none := by
  cases op <;> first | rfl | cases hop

/-- Without a handle the methods that do not ask pass NULL. -/
theorem not_allSound_of_none {op : Op} (hop : op.plain = true)
    (hneeds : op.NeedsHandle E.foundation) (hp : s.MySQLConnection = none) :
    ¬ AllSound (perform E op s).2.calls := by
  have hbad : ∀ {c : Call} {calls : List Call}, ¬ c.Sound → ¬ AllSound (c :: calls) :=
    fun hc hall => hc (hall _ List.mem_cons_self)
  cases op with
  | hostInfo =>
      rw [perform, map_snd, hostInfo, stringOf, bind_of_error (accessor_none _ hp)]
      exact hbad (fun h => h rfl)
  | protoInfo =>
      rw [perform, map_snd, protoInfo, accessor_none _ hp]
      exact hbad (fun h => h rfl)
  | threadID =>
      rw [perform, map_snd, threadID, accessor_none _ hp]
      exact hbad (fun h => h rfl)
  | status =>
      rw [perform, map_snd, status, bind_of_ok (get_apply s), bind_of_error (command_none _ _ _ hp)]
      exact hbad (fun h => h rfl)
  | processes =>
      rw [perform, map_snd, processes, bind_of_ok (get_apply s),
          bind_of_error (command_none _ _ _ hp)]
      exact hbad (fun h => h rfl)
  | killProcess processID =>
      have hsend : simple_command E (.process_kill processID) s = _ :=
        (bind_of_ok (get_apply s) _).trans (command_none _ _ _ hp)
      rw [perform, map_snd, killProcess, bind_of_error hsend]
      exact hbad (fun h => h rfl)
  | dataBasesLike =>
      rw [perform, map_snd, dataBasesLike, listLike, bind_of_ok (get_apply s),
        bind_of_error (command_none _ _ _ hp)]
      exact hbad (fun h => h rfl)
  | tablesLike =>
      rw [perform, map_snd, tablesLike, listLike, bind_of_ok (get_apply s),
        bind_of_error (command_none _ _ _ hp)]
      exact hbad (fun h => h rfl)
  | _ =>
      obtain ⟨format, ap, query, hasks, -⟩ := hneeds
      rw [asks_of_plain hop] at hasks
      cases hasks

/-! ## Methods that quote -/

/-- Calls that only look for a character set that is there. -/
def OnlyQuotes (calls : List Call) : Prop := ∀ c ∈ calls, c = .rangeOfCharacterFromSet true

theorem OnlyQuotes.sound {l : List Call} (hl : OnlyQuotes l) : AllSound l := by
  intro c hc
  rw [hl c hc]
  rfl

/-- Calls that only look for a character set, which may be missing. -/
def OnlyLooks (calls : List Call) : Prop := ∀ c ∈ calls, ∃ set, c = .rangeOfCharacterFromSet set

theorem OnlyQuotes.onlyLooks {l : List Call} (hl : OnlyQuotes l) : OnlyLooks l :=
  fun c hc => ⟨true, hl c hc⟩

/-- Quoting without what it needs raises, and with it goes on. -/
theorem quoteObject_apply (E : Environment) (s : State) (o : Option Obj) :
    (∃ l, OnlyQuotes l ∧ (escapedText E.foundation o ≠ none → s.escapeSet = true) ∧
        quoteObject E o s =
          (.ok (MGMMyConnection.quoteObject E.foundation o), { s with calls := l ++ s.calls })) ∨
      (escapedText E.foundation o ≠ none ∧ s.escapeSet = false ∧
        quoteObject E o s =
          (.error .raised, { s with calls := .rangeOfCharacterFromSet false :: s.calls })) := by
  cases htext : escapedText E.foundation o with
  | none =>
      refine .inl ⟨[], by simp [OnlyQuotes], by simp, ?_⟩
      rw [quoteObject, htext]
      rfl
  | some theString =>
      cases hset : s.escapeSet with
      | true =>
          refine .inl ⟨[.rangeOfCharacterFromSet true], by simp [OnlyQuotes], by simp, ?_⟩
          simp [quoteObject, htext, escapeString, record, bind_apply, hset]
      | false =>
          refine .inr ⟨by simp, rfl, ?_⟩
          simp [quoteObject, htext, escapeString, record, bind_apply, hset]

theorem quoteEach_apply (E : Environment) (os : List (Option Obj)) : ∀ s : State,
    (∃ l, OnlyQuotes l ∧ CanQuote E.foundation s os ∧
        quoteEach E os s = (.ok (), { s with calls := l ++ s.calls })) ∨
      (∃ l, OnlyLooks l ∧ ¬ AllSound l ∧ ¬ CanQuote E.foundation s os ∧
        quoteEach E os s = (.error .raised, { s with calls := l ++ s.calls })) := by
  induction os with
  | nil => exact fun s => .inl ⟨[], by simp [OnlyQuotes], by simp [CanQuote], rfl⟩
  | cons o os ih =>
      intro s
      rcases quoteObject_apply E s o with ⟨l, hl, hset, hrun⟩ | ⟨htext, hset, hrun⟩
      · have hnext : quoteEach E (o :: os) s = quoteEach E os { s with calls := l ++ s.calls } := by
          rw [quoteEach, bind_of_ok hrun]
        rw [hnext]
        rcases ih { s with calls := l ++ s.calls } with
          ⟨l', hl', hcan, hrun'⟩ | ⟨l', hl', hbad, hcan, hrun'⟩
        · refine .inl ⟨l' ++ l, ?_, ?_, ?_⟩
          · exact List.forall_mem_append.mpr ⟨hl', hl⟩
          · exact List.forall_mem_cons.mpr ⟨hset, hcan⟩
          · rw [hrun', List.append_assoc]
        · refine .inr ⟨l' ++ l, ?_, ?_, ?_, ?_⟩
          · exact List.forall_mem_append.mpr ⟨hl', hl.onlyLooks⟩
          · intro hall
            exact hbad (List.forall_mem_append.mp hall).1
          · intro hcan'
            exact hcan (List.forall_mem_cons.mp hcan').2
          · rw [hrun', List.append_assoc]
      · refine .inr ⟨[.rangeOfCharacterFromSet false], ?_, ?_, ?_, bind_of_error hrun _⟩
        · exact fun c hc => ⟨false, List.mem_singleton.mp hc⟩
        · intro hall
          exact Bool.false_ne_true (hall _ List.mem_cons_self)
        · intro hcan
          have htrue := hcan o List.mem_cons_self htext
          rw [hset] at htrue
          cases htrue

/-- What `query:` does with a text needs a handle if the text is not empty. -/
theorem allSound_sendComposed_iff (hs : AllSound s.calls)
    (composed : Except Query.Failure NSString) :
    AllSound (sendComposed E composed s).2.calls ↔
      ((∃ query, composed = .ok query ∧ query ≠ []) → s.MySQLConnection ≠ none) := by
  constructor
  · rintro hall ⟨query, rfl, hne⟩ hp
    rw [sendComposed, if_neg hne, sendQuery] at hall
    cases htext : UTF8String query with
    | none =>
        rw [htext] at hall
        exact hall _ List.mem_cons_self hp
    | some bytes =>
        rw [htext] at hall
        simp only [bind_of_ok (get_apply s)] at hall
        rw [bind_of_error (command_none _ _ _ hp)] at hall
        exact hall _ List.mem_cons_self rfl
  · intro hneeds
    by_cases hp : s.MySQLConnection = none
    · cases composed with
      | error failure => cases failure <;> exact hs
      | ok query =>
          by_cases hempty : query = []
          · rw [sendComposed, if_pos hempty]
            exact hs
          · exact absurd hp (hneeds ⟨query, rfl, hempty⟩)
    · exact ((respects_calm E).follows_sendComposed composed s).sound hp hs

theorem allSound_query_iff (hs : AllSound s.calls) (format : NSString) (ap : List Arg) :
    AllSound (query E format ap s).2.calls ↔
      CanQuote E.foundation s
          (Query.quoted E.foundation (MGMMyConnection.quoter E.foundation) format ap) ∧
        ((∃ query, MGMMyConnection.queryText E.foundation format ap = .ok query ∧ query ≠ []) →
          s.MySQLConnection ≠ none) := by
  rcases quoteEach_apply E
      (Query.quoted E.foundation (MGMMyConnection.quoter E.foundation) format ap) s with
    ⟨l, hl, hcan, hrun⟩ | ⟨l, hl, hbad, hcan, hrun⟩
  · rw [query, bind_of_ok hrun, and_iff_right hcan]
    exact allSound_sendComposed_iff (s := { s with calls := l ++ s.calls })
      (List.forall_mem_append.mpr ⟨hl.sound, hs⟩) _
  · refine iff_of_false ?_ fun h => hcan h.1
    rw [query, bind_of_error hrun]
    intro hall
    exact hbad (List.forall_mem_append.mp hall).1

theorem perform_of_asks {op : Op} {format : NSString} {ap : List Arg}
    (h : op.asks = some (format, ap)) :
    (perform E op s).2 = (query E format ap s).2 ∧
      op.quotes E.foundation =
        Query.quoted E.foundation (MGMMyConnection.quoter E.foundation) format ap ∧
      (op.NeedsHandle E.foundation ↔
        ∃ query, MGMMyConnection.queryText E.foundation format ap = .ok query ∧ query ≠ []) := by
  have hneeds : (∃ format' ap' query, op.asks = some (format', ap') ∧
      MGMMyConnection.queryText E.foundation format' ap' = .ok query ∧ query ≠ []) ↔
      ∃ query, MGMMyConnection.queryText E.foundation format ap = .ok query ∧ query ≠ [] := by
    simp [h]
  cases op with
  | query =>
      cases h
      exact ⟨map_snd _ _ _, rfl, hneeds⟩
  | createDataBase theDataBase =>
      rw [Op.asks] at h
      split at h
      next => cases h
      next hne =>
        refine ⟨?_, by simp only [Op.quotes, Op.asks, if_neg hne, h], hneeds⟩
        cases h
        rw [perform, map_snd, createDataBase, if_neg hne]
        exact bind_pure_snd _ _ _
  | deleteDataBase theDataBase =>
      rw [Op.asks] at h
      split at h
      next => cases h
      next hne =>
        refine ⟨?_, by simp only [Op.quotes, Op.asks, if_neg hne, h], hneeds⟩
        cases h
        rw [perform, map_snd, deleteDataBase, if_neg hne]
        exact bind_pure_snd _ _ _
  | tablesFromDataBase theDataBase theName =>
      refine ⟨?_, by simp only [Op.quotes, h], hneeds⟩
      rw [perform, map_snd, tablesFromDataBase]
      rw [Op.asks] at h
      split at h
      next hempty =>
        cases h
        rw [if_pos hempty]
      next hne =>
        cases h
        rw [if_neg hne]
  | columnsFromTable theTable theName =>
      refine ⟨?_, by simp only [Op.quotes, h], hneeds⟩
      rw [perform, map_snd, columnsFromTable]
      rw [Op.asks] at h
      split at h
      next hempty =>
        cases h
        rw [if_pos hempty]
      next hne =>
        cases h
        rw [if_neg hne]
  | _ => cases h

theorem allSound_quoteObject_iff (hs : AllSound s.calls) (o : Option Obj) :
    AllSound (quoteObject E o s).2.calls ↔ CanQuote E.foundation s [o] := by
  rw [CanQuote, List.forall_mem_singleton]
  rcases quoteObject_apply E s o with ⟨l, hl, hset, hrun⟩ | ⟨htext, hset, hrun⟩
  · rw [hrun]
    exact iff_of_true (List.forall_mem_append.mpr ⟨hl.sound, hs⟩) hset
  · rw [hrun]
    refine iff_of_false ?_ ?_
    · intro hall
      exact Bool.false_ne_true (hall _ List.mem_cons_self)
    · intro hneeds
      exact Bool.false_ne_true (hset.symm.trans (hneeds htext))

/-- `escapeString:` needs what `quoteObject:` of the string needs. -/
theorem escapeString_snd (theString : Option NSString) :
    (escapeString theString s).2 = (quoteObject E (theString.map .string) s).2 := by
  have htext : escapedText E.foundation (theString.map .string) = theString := by
    cases theString <;> rfl
  rw [quoteObject, bind_pure_snd, htext]

/-! ## Connecting -/

theorem Calm.of_zone {result : Except Halt Unit} (hrun : getTimeZone E s = (result, t)) :
    Calm s t :=
  (respects_calm E).follows_getTimeZone.of_run hrun

theorem allSound_closed (hs : AllSound s.calls) : AllSound (closed s).calls := by
  rw [closed]
  split
  · exact hs.cons trivial
  · exact hs

theorem allSound_reopened (hs : AllSound s.calls) : AllSound (reopened E s).calls := by
  have hclosed := allSound_closed hs
  rw [reopened, initialised]
  split
  · rw [mysql_init, modify_apply]
    split
    · exact hclosed.cons trivial
    · exact hclosed.cons trivial
  · exact hclosed

theorem allSound_connects {result : Except Halt Bool} (hc : Connects E s result t)
    (hs : AllSound s.calls) : AllSound t.calls := by
  have hreopened : AllSound (reopened E s).calls := allSound_reopened hs
  refine hc.kept (I := fun t => AllSound t.calls) hreopened
    (fun p _ _ => hreopened.cons (Option.some_ne_none p)) ?_
  intro p arguments result u hp hrun hattempted
  have hhandle : (reopened E s).MySQLConnection ≠ none := by
    rw [hp]
    exact Option.some_ne_none _
  exact (Calm.of_zone hrun).sound hhandle hattempted

theorem starts_allSound (E : Environment) : Starts E fun s => AllSound s.calls where
  init _ h := by cases h
  escapeSet _ h := h
  gone _ h := h
  connects _ _ _ hc _ h := allSound_connects hc h

/-! ## One method -/

/-- The methods that make no query need a handle only if they read it or send a
command. -/
theorem not_needsHandle {op : Op} (hop : op.plain = false) (hasks : op.asks = none) :
    ¬ op.NeedsHandle E.foundation := by
  cases op with
  | hostInfo => cases hop
  | protoInfo => cases hop
  | threadID => cases hop
  | status => cases hop
  | processes => cases hop
  | killProcess => cases hop
  | dataBasesLike => cases hop
  | tablesLike => cases hop
  | _ =>
      rintro ⟨format, ap, query, hsome, -⟩
      rw [hasks] at hsome
      cases hsome

theorem quotes_of_plain {op : Op} (hop : op.plain = true) : op.quotes E.foundation = [] := by
  cases op <;> first | rfl | cases hop

/-- A method makes no call that misses something exactly if it is allowed. -/
theorem allSound_perform_iff (hinv : Inv s) (halive : s.alive = true) (hs : AllSound s.calls)
    (op : Op) : AllSound (perform E op s).2.calls ↔ Allowed E s op := by
  cases hasks : op.asks with
  | some asked =>
      obtain ⟨hrun, hquotes, hneeds⟩ := perform_of_asks (E := E) (s := s) hasks
      rw [hrun, allSound_query_iff hs, ← hquotes, ← hneeds]
      exact ⟨fun h => ⟨h.1, h.2⟩, fun h => ⟨h.quotes, h.handle⟩⟩
  | none =>
    cases hplain : op.plain with
    | true =>
        constructor
        · intro hall
          refine ⟨?_, ?_⟩
          · rw [quotes_of_plain hplain]
            exact fun _ h => absurd h List.not_mem_nil
          · intro hneeds hp
            exact not_allSound_of_none hplain hneeds hp hall
        · intro hallowed
          by_cases hp : s.MySQLConnection = none
          · have hfree : s.isConnected = false := by
              cases hc : s.isConnected with
              | false => rfl
              | true =>
                  obtain ⟨h, hsome, -⟩ := hinv.connected halive hc
                  rw [hp] at hsome
                  cases hsome
            rw [calls_of_not_connected hplain (fun hneeds => hallowed.handle hneeds hp) hfree]
            exact hs
          · exact (follows_perform_plain (respects_calm E) hplain s).sound hp hs
    | false =>
        have hneeds : ¬ op.NeedsHandle E.foundation := not_needsHandle hplain hasks
        have hquoted : AllSound (perform E op s).2.calls ↔
            CanQuote E.foundation s (op.quotes E.foundation) := by
          cases op with
          | escapeString theString =>
              rw [perform, map_snd, escapeString_snd (E := E)]
              exact allSound_quoteObject_iff hs _
          | quoteObject o =>
              rw [perform, map_snd]
              exact allSound_quoteObject_iff hs o
          | quoteChar theChar =>
              rw [perform, map_snd]
              cases theChar with
              | none => exact iff_of_true hs (by simp [CanQuote, Op.quotes, escapedText])
              | some theChar => exact allSound_quoteObject_iff hs _
          | connectWithHost theHost thePort theUsername thePassword =>
              rw [perform, map_snd]
              refine iff_of_true ?_ fun _ h => absurd h List.not_mem_nil
              exact allSound_connects (connectWithHost_connects E _ _ _ _ s) hs
          | connectWithSocket theSocket theUsername thePassword =>
              rw [perform, map_snd]
              refine iff_of_true ?_ fun _ h => absurd h List.not_mem_nil
              exact allSound_connects (connectWithSocket_connects E _ _ _ s) hs
          | disconnect =>
              rw [perform, map_snd, disconnect_apply]
              exact iff_of_true (allSound_closed hs) fun _ h => absurd h List.not_mem_nil
          | dealloc =>
              rw [perform, map_snd, dealloc_apply]
              exact iff_of_true (allSound_closed hs) fun _ h => absurd h List.not_mem_nil
          | createDataBase theDataBase =>
              have hempty : theDataBase.getD [] = [] := by
                by_contra hne
                simp [Op.asks, hne] at hasks
              rw [perform, map_snd, createDataBase, if_pos hempty]
              simp only [Op.quotes, hasks]
              exact iff_of_true hs fun _ h => absurd h List.not_mem_nil
          | deleteDataBase theDataBase =>
              have hempty : theDataBase.getD [] = [] := by
                by_contra hne
                simp [Op.asks, hne] at hasks
              rw [perform, map_snd, deleteDataBase, if_pos hempty]
              simp only [Op.quotes, hasks]
              exact iff_of_true hs fun _ h => absurd h List.not_mem_nil
          | query => cases hasks
          | tablesFromDataBase theDataBase theName =>
              rw [Op.asks] at hasks
              split at hasks <;> cases hasks
          | columnsFromTable theTable theName =>
              rw [Op.asks] at hasks
              split at hasks <;> cases hasks
          | _ => cases hplain
        rw [hquoted]
        exact ⟨fun h => ⟨h, fun hneeds' => absurd hneeds' hneeds⟩, fun h => h.quotes⟩

/-! ## Runs -/

theorem suffix_connects {base : List Call} {result : Except Halt Bool}
    (hc : Connects E s result t) (h : base <:+ s.calls) : base <:+ t.calls := by
  have hclosed : base <:+ (closed s).calls := by
    rw [closed]
    split
    · exact h.trans (List.suffix_cons _ _)
    · exact h
  have hreopened : base <:+ (reopened E s).calls := by
    rw [reopened, initialised]
    split
    · rw [mysql_init, modify_apply]
      split
      · exact hclosed.trans (List.suffix_cons _ _)
      · exact hclosed.trans (List.suffix_cons _ _)
    · exact hclosed
  refine hc.kept (I := fun t => base <:+ t.calls) hreopened
    (fun _ _ _ => hreopened.trans (List.suffix_cons _ _)) ?_
  intro p arguments result u _ hrun hattempted
  exact hattempted.trans (Calm.of_zone hrun).uses.calls_suffix

/-- Calls are not forgotten. -/
theorem keptByMethods_suffix (E : Environment) (base : List Call) :
    KeptByMethods E fun s => base <:+ s.calls where
  uses s _ hop _ h := h.trans (follows_perform (respects_uses E) hop s).calls_suffix
  connects _ _ _ hc _ h := suffix_connects hc h
  closed s _ h := by
    rw [closed]
    split
    · exact h.trans (List.suffix_cons _ _)
    · exact h
  dealloc s _ h := by
    rw [dealloc_apply, closed]
    split
    · exact h.trans (List.suffix_cons _ _)
    · exact h

/-- Every step of a run is allowed, as long as the object is there. -/
def AllowedRun (E : Environment) : State → List Op → Prop
  | _, [] => True
  | s, op :: ops =>
      (s.alive = true → Allowed E s op) ∧ AllowedRun E ((object E).step s op).2 ops

theorem survived_calls (outcome : Except Halt Value × State) :
    (survived outcome).calls = outcome.2.calls := by
  obtain ⟨result, s⟩ := outcome
  cases result with
  | ok value => rfl
  | error e => cases e <;> rfl

theorem inv_step (hinv : Inv s) (op : Op) : Inv ((object E).step s op).2 := by
  rw [object]
  dsimp only
  split
  next halive =>
    exact (kept_inv E).survived ((kept_inv E).toKeptByMethods.perform op halive hinv)
  next => exact hinv

theorem suffix_step (s : State) (op : Op) : s.calls <:+ ((object E).step s op).2.calls := by
  rw [object]
  dsimp only
  split
  next halive =>
    rw [survived_calls]
    exact (keptByMethods_suffix E s.calls).perform op halive List.suffix_rfl
  next => exact List.suffix_rfl

theorem suffix_run (ops : List Op) : ∀ s : State, s.calls <:+ ((object E).run s ops).2.calls := by
  induction ops with
  | nil => exact fun s => List.suffix_rfl
  | cons op ops ih =>
      intro s
      rw [Machine.run_cons]
      exact (suffix_step s op).trans (ih _)

theorem AllSound.of_suffix {before calls : List Call} (h : AllSound calls) (hs : before <:+ calls) :
    AllSound before :=
  fun c hc => h c (hs.subset hc)

theorem allSound_step_iff (hinv : Inv s) (hs : AllSound s.calls) (op : Op) :
    AllSound ((object E).step s op).2.calls ↔ (s.alive = true → Allowed E s op) := by
  rw [object]
  dsimp only
  split
  next halive =>
    rw [survived_calls, allSound_perform_iff hinv halive hs]
    simp [halive]
  next hgone => exact iff_of_true hs fun halive => absurd halive hgone

theorem allSound_run_iff (ops : List Op) : ∀ s : State, Inv s → AllSound s.calls →
    (AllSound ((object E).run s ops).2.calls ↔ AllowedRun E s ops) := by
  induction ops with
  | nil => exact fun s _ hs => iff_of_true hs trivial
  | cons op ops ih =>
      intro s hinv hs
      have hstep := allSound_step_iff (E := E) hinv hs op
      rw [Machine.run_cons, AllowedRun, ← hstep]
      by_cases hsound : AllSound ((object E).step s op).2.calls
      · rw [and_iff_right hsound]
        exact ih _ (inv_step hinv op) hsound
      · refine iff_of_false ?_ fun h => hsound h.1
        intro hall
        -- the calls of the first step are among those of the run
        exact hsound (hall.of_suffix (suffix_run ops _))

end

/-- A run passes no NULL to the library where it is read, and looks for no nil set,
exactly if each of its steps is allowed in the state before it. -/
theorem allSound_after_iff (E : Environment) (creation : Creation) (ops : List Op) :
    AllSound (after E creation ops).calls ↔ AllowedRun E (start E creation) ops :=
  allSound_run_iff ops _ ((kept_inv E).toStarts.start creation) ((starts_allSound E).start creation)

/-! ## Two runs that miss something -/

/-- A query after `disconnect` passes NULL, and a connected object of the plain
initialiser has no set to quote with. -/
theorem not_allSound_after :
    ¬ AllSound (after hangingUp .init [connectToHost, .disconnect, .processes]).calls ∧
      ¬ AllSound
        (after hangingUp .init [connectToHost, .quoteObject (some (.string []))]).calls := by
  constructor
  · intro h
    exact absurd rfl (h (.command none .process_info .failed) (by decide))
  · intro h
    exact absurd (h (.rangeOfCharacterFromSet false) (by decide)) Bool.false_ne_true

end MyConnection

end MGMDB
