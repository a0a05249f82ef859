import Mathlib.Data.List.Nodup
import MGMDB.MyConnection.Handles

/-!
# The time zone of the session

`getTimeZone` asks for the variables that end in `time_zone`, and for `timezone` where
these do not help.  `Taken` is the value the method then goes by, read off the rows
without their order, and `Names` is the name they give.  The method gives the old zone up
before it has the new one, so a value that is no name, or no name of a zone, leaves none.
`getTimeZone_iff` says that nothing else goes wrong.
-/

namespace MGMDB

namespace MyConnection

open Systems Program

/-! ## What the server says -/

/-- A row of the variables. -/
def variable_row (name : String) (value : Obj) : List Obj := [.string (lit name), value]

/-- The rows `SHOW VARIABLES` gives, each variable once. -/
structure ListsVariables (rows : List (List Obj)) : Prop where
  shape : ∀ row ∈ rows, ∃ name value, row = [.string name, value]
  once : (rows.map List.head?).Nodup

/-- The session has no zone of its own. -/
def Unset (rows : List (List Obj)) : Prop :=
  ∀ value, variable_row "time_zone" value ∈ rows → value = .string (lit "SYSTEM")

/-- There is no zone of the server in the first rows. -/
def Silent (rows : List (List Obj)) : Prop :=
  ∀ value, variable_row "system_time_zone" value ∉ rows

/-- The value `getTimeZone` takes for a name. -/
inductive Taken (rows rows' : List (List Obj)) : Obj → Prop where
  | session {value : Obj} : variable_row "time_zone" value ∈ rows →
      value ≠ .string (lit "SYSTEM") → Taken rows rows' value
  | system {value : Obj} : Unset rows → variable_row "system_time_zone" value ∈ rows →
      Taken rows rows' value
  | legacy {value : Obj} : Unset rows → Silent rows → variable_row "timezone" value ∈ rows' →
      Taken rows rows' value
  | own : variable_row "time_zone" (.string (lit "SYSTEM")) ∈ rows → Silent rows → rows' = [] →
      Taken rows rows' (.string (lit "SYSTEM"))

/-- The name of the zone: `time_zone`, or `system_time_zone` where that is absent or
`SYSTEM`, or `timezone` where neither gives a name. -/
inductive Names (rows rows' : List (List Obj)) : NSString → Prop where
  | session {name : NSString} : variable_row "time_zone" (.string name) ∈ rows →
      name ≠ lit "SYSTEM" → Names rows rows' name
  | system {name : NSString} :
      (∀ other, variable_row "time_zone" (.string other) ∈ rows → other = lit "SYSTEM") →
      variable_row "system_time_zone" (.string name) ∈ rows → Names rows rows' name
  | legacy {name : NSString} :
      (∀ other, variable_row "time_zone" (.string other) ∈ rows → other = lit "SYSTEM") →
      (∀ other, variable_row "system_time_zone" (.string other) ∉ rows) →
      variable_row "timezone" (.string name) ∈ rows' → Names rows rows' name

section
variable {E : Environment}

/-- The first query of `getTimeZone`, behind the ping. -/
def zoneVariables (E : Environment) (s : State) : Except Halt (Option MGMMyResult) × State :=
  query E (lit "SHOW VARIABLES LIKE '%%time_zone'") [] (isConnected E s).2

/-- The second one. -/
def legacyVariables (E : Environment) (s : State) : Except Halt (Option MGMMyResult) × State :=
  query E (lit "SHOW VARIABLES LIKE 'timezone'") [] (zoneVariables E s).2

/-- A query is answered with these rows, none for an error of the server. -/
def Gives (E : Environment) (outcome : Except Halt (Option MGMMyResult) × State)
    (rows : List (List Obj)) : Prop :=
  ∃ result, outcome.1 = .ok result ∧
    rowsOf E.foundation (outcome.2.zone E) result = rows

/-- A session is open, and the server answers what `getTimeZone` asks. -/
structure Answered (E : Environment) (s : State) (rows rows' : List (List Obj)) : Prop where
  connected : (isConnected E s).1 = .ok true
  first : Gives E (zoneVariables E s) rows
  second : Unset rows → Silent rows → Gives E (legacyVariables E s) rows'
  lists : ListsVariables rows
  /-- There is one variable of that name at most. -/
  listsLegacy : rows' = [] ∨ ∃ value, rows' = [variable_row "timezone" value]

/-- The zone the rows name, and the previous one where they name none that is known. -/
def Resolves (E : Environment) (previous : NSTimeZone) (rows rows' : List (List Obj))
    (outcome : Except Halt Unit × State) : Prop :=
  outcome.1 = .ok () ∧ ∃ zone, outcome.2.timeZone = some zone ∧
    (∀ name, Names rows rows' name → zone = (E.timeZoneWithName name).getD previous) ∧
    ((∀ name, ¬ Names rows rows' name) → zone = previous)

/-! ## Asking keeps the zone -/

/-- The zone of the object is as before. -/
def SameZone (s t : State) : Prop := t.timeZone = s.timeZone

theorem sameZone_refl (s : State) : SameZone s s := rfl

theorem sameZone_trans (s t u : State) (h : SameZone s t) (h' : SameZone t u) : SameZone s u :=
  h'.trans h

theorem sameZone_command {α : Type} (c : Command) (accepts : Bool) (send : MYSQL → α × MYSQL) :
    Follows SameZone (command E c accepts send) := by
  intro s
  rw [command]
  cases s.MySQLConnection with
  | none => rfl
  | some h =>
      dsimp only
      split <;> rfl

theorem sameZone_isConnected : Follows SameZone (isConnected E) := by
  refine (follows_get sameZone_refl).bind sameZone_trans fun s => ?_
  split
  · refine ((follows_get sameZone_refl).bind sameZone_trans fun t => ?_).bind sameZone_trans
      fun _ => follows_pure sameZone_refl _
    exact sameZone_command _ _ _
  · exact follows_pure sameZone_refl _

theorem sameZone_resultObject (source : Source) (theResult : Option MYSQL_RES) :
    Follows SameZone (resultObject source theResult) := by
  cases theResult with
  | none => exact follows_pure sameZone_refl _
  | some result =>
      have hstored : Follows SameZone
          (modify fun s => { s with stored := ⟨source, result⟩ :: s.stored } : Method Unit) :=
        fun s => rfl
      exact hstored.bind sameZone_trans fun _ => follows_orRaise sameZone_refl _

theorem sameZone_sendQuery (query : NSString) : Follows SameZone (sendQuery E query) := by
  rw [sendQuery]
  cases UTF8String query with
  | none => exact fun s => rfl
  | some bytes =>
      refine (follows_get sameZone_refl).bind sameZone_trans fun s => ?_
      exact (sameZone_command _ _ _).bind sameZone_trans (sameZone_resultObject _)

/-- A query without arguments. -/
theorem sameZone_query (format : NSString) : Follows SameZone (query E format []) := by
  rw [query, Query.quoted_nil]
  refine (follows_pure sameZone_refl ()).bind sameZone_trans fun _ => ?_
  cases MGMMyConnection.queryText E.foundation format [] with
  | error failure => cases failure <;> exact fun s => rfl
  | ok text =>
      rw [sendComposed]
      split
      · exact follows_pure sameZone_refl _
      · exact sameZone_sendQuery text

theorem zoneVariables_timeZone (s : State) : (zoneVariables E s).2.timeZone = s.timeZone :=
  sameZone_trans _ _ _ (sameZone_isConnected s) (sameZone_query _ _)

theorem legacyVariables_timeZone (s : State) : (legacyVariables E s).2.timeZone = s.timeZone :=
  sameZone_trans _ _ _ (zoneVariables_timeZone s) (sameZone_query _ _)

/-! ## The loop over the rows -/

section
variable {rows : List (List Obj)}

theorem ListsVariables.tail {row : List Obj} (h : ListsVariables (row :: rows)) :
    ListsVariables rows where
  shape r hr := h.shape r (List.mem_cons_of_mem _ hr)
  once := (List.nodup_cons.mp h.once).2

/-- The variable of the first row is not in the others. -/
theorem ListsVariables.not_mem_tail {name : String} {value : Obj}
    (h : ListsVariables (variable_row name value :: rows)) (other : Obj) :
    variable_row name other ∉ rows := by
  intro hmem
  refine (List.nodup_cons.mp h.once).1 (List.mem_map.mpr ⟨_, hmem, rfl⟩)

/-- What the loop has of a variable that was `before`: the value of its row, or what it
was. -/
def Reads (name : String) (rows : List (List Obj)) (before read : Option Obj) : Prop :=
  ∀ value, read = some value ↔
    variable_row name value ∈ rows ∨
      before = some value ∧ ∀ other, variable_row name other ∉ rows

theorem reads_nil (name : String) (read : Option Obj) : Reads name [] read read := by
  intro value
  simp

theorem Reads.same {name : String} {value : Obj} {before read : Option Obj}
    (hlists : ListsVariables (variable_row name value :: rows))
    (h : Reads name rows (some value) read) :
    Reads name (variable_row name value :: rows) before read := by
  have hrest := hlists.not_mem_tail
  intro v
  rw [h v, or_iff_right (hrest v), List.mem_cons, or_iff_left (hrest v)]
  constructor
  · rintro ⟨hv, -⟩
    obtain rfl := Option.some.inj hv
    exact .inl rfl
  · rintro (heq | ⟨-, hnone⟩)
    · obtain ⟨-, htail⟩ := List.cons.inj heq
      obtain ⟨rfl, -⟩ := List.cons.inj htail
      exact ⟨rfl, hrest⟩
    · exact absurd List.mem_cons_self (hnone value)

theorem Reads.other {name : String} {row : List Obj} {before read : Option Obj}
    (hother : ∀ value, row ≠ variable_row name value) (h : Reads name rows before read) :
    Reads name (row :: rows) before read := by
  have hmem (value : Obj) :
      variable_row name value ∈ row :: rows ↔ variable_row name value ∈ rows := by
    rw [List.mem_cons, or_iff_right fun heq => hother value heq.symm]
  intro v
  simp only [hmem]
  exact h v

theorem readZones_cons (name : NSString) (value : Obj) (rows : List (List Obj))
    (system session : Option Obj) :
    readZones ([.string name, value] :: rows) (system, session) =
      if name = lit "system_time_zone" then readZones rows (some value, session)
      else if name = lit "time_zone" then readZones rows (system, some value)
      else readZones rows (system, session) := by
  by_cases hsystem : name = lit "system_time_zone"
  · simp [readZones, objectAtIndex, isEqualToString, bind, Except.bind, hsystem]
  · by_cases hsession : name = lit "time_zone"
    · simp [readZones, objectAtIndex, isEqualToString, bind, Except.bind, hsession, lit]
    · simp [readZones, objectAtIndex, isEqualToString, bind, Except.bind, hsystem, hsession]

/-- The loop reads both variables, wherever their rows stand. -/
theorem readZones_reads (h : ListsVariables rows) (system session : Option Obj) :
    ∃ zones, readZones rows (system, session) = .ok zones ∧
      Reads "system_time_zone" rows system zones.1 ∧ Reads "time_zone" rows session zones.2 := by
  induction rows generalizing system session with
  | nil => exact ⟨_, rfl, reads_nil _ _, reads_nil _ _⟩
  | cons row rows ih =>
      obtain ⟨name, value, rfl⟩ := h.shape row List.mem_cons_self
      have hother {n : String} (hn : name ≠ lit n) (v : Obj) :
          [Obj.string name, value] ≠ variable_row n v :=
        fun heq => hn (Obj.string.inj (List.cons.inj heq).1)
      rw [readZones_cons]
      split
      next hsystem =>
        subst hsystem
        obtain ⟨zones, hrun, hread, hread'⟩ := ih h.tail (some value) session
        exact ⟨zones, hrun, hread.same h, hread'.other (hother (by decide))⟩
      next hsystem =>
        split
        next hsession =>
          subst hsession
          obtain ⟨zones, hrun, hread, hread'⟩ := ih h.tail system (some value)
          exact ⟨zones, hrun, hread.other (hother (by decide)), hread'.same h⟩
        next hsession =>
          obtain ⟨zones, hrun, hread, hread'⟩ := ih h.tail system session
          exact ⟨zones, hrun, hread.other (hother hsystem), hread'.other (hother hsession)⟩

/-- What was not read before is what the row says. -/
theorem Reads.iff_mem {name : String} {read : Option Obj} (h : Reads name rows none read)
    (value : Obj) : read = some value ↔ variable_row name value ∈ rows := by
  rw [h value, or_iff_left]
  rintro ⟨hnone, -⟩
  cases hnone

theorem Reads.eq_none_iff {name : String} {read : Option Obj} (h : Reads name rows none read) :
    read = none ↔ ∀ value, variable_row name value ∉ rows := by
  rw [Option.eq_none_iff_forall_ne_some]
  exact forall_congr' fun value => not_congr (h.iff_mem value)

end

/-! ## One run -/

section
variable {s t : State} {rows rows' : List (List Obj)} {value : Obj}

/-- The method behind the first reply. -/
def chooseZone (E : Environment) (zones : Option Obj × Option Obj) : Method Unit := do
  if ← orRaise (isUnset zones.2) then setTimeZone E (← serverTimeZone E zones)
  else setTimeZone E zones.2

/-- A query that is answered, and the rows of its result. -/
theorem Gives.run {m : Method (Option MGMMyResult)} (h : Gives E (m s) rows) :
    ∃ result, m s = (.ok result, (m s).2) ∧
      rowsOf E.foundation ((m s).2.zone E) result = rows := by
  obtain ⟨result, hresult, hrows⟩ := h
  exact ⟨result, Prod.ext hresult rfl, hrows⟩

theorem getTimeZone_eq (h : Answered E s rows rows') {zones : Option Obj × Option Obj}
    (hzones : readZones rows (none, none) = .ok zones) :
    getTimeZone E s = chooseZone E zones (zoneVariables E s).2 := by
  have hping : isConnected E s = (.ok true, (isConnected E s).2) := Prod.ext h.connected rfl
  obtain ⟨result, hquery, hrows⟩ :=
    Gives.run (m := query E (lit "SHOW VARIABLES LIKE '%%time_zone'") []) h.first
  rw [getTimeZone, bind_of_ok hping, if_pos rfl, bind_of_ok hquery, bind_of_ok (get_apply _),
    hrows, hzones]
  rfl

/-- The new zone is there exactly if the value is a name that is known. -/
theorem setTimeZone_iff (value : Obj) (t : State) (zone : NSTimeZone) :
    ((setTimeZone E (some value) t).1 = .ok () ∧
        (setTimeZone E (some value) t).2.timeZone = some zone) ↔
      ∃ name, value = .string name ∧ E.timeZoneWithName name = some zone := by
  cases value with
  | string name =>
      constructor
      · exact fun h => ⟨name, rfl, h.2⟩
      · rintro ⟨_, hname, hzone⟩
        obtain rfl := Obj.string.inj hname
        exact ⟨rfl, hzone⟩
  | _ =>
      refine iff_of_false ?_ ?_
      · rintro ⟨hok, -⟩
        cases hok
      · rintro ⟨_, hname, -⟩
        cases hname

theorem chooseZone_session {zones : Option Obj × Option Obj} (hzones : zones.2 = some value)
    (hvalue : value ≠ .string (lit "SYSTEM")) (t : State) :
    chooseZone E zones t = setTimeZone E (some value) t ∨
      (∀ name, value ≠ .string name) ∧ (chooseZone E zones t).1 = .error .raised := by
  rw [chooseZone, hzones]
  cases value with
  | string name =>
      have hname : name ≠ lit "SYSTEM" := fun heq => hvalue (congrArg Obj.string heq)
      have hunset : isUnset (some (.string name)) = .ok false :=
        congrArg Except.ok (decide_eq_false hname)
      rw [hunset]
      exact .inl rfl
  | _ => exact .inr ⟨fun name => Obj.noConfusion, rfl⟩

theorem chooseZone_server {zones : Option Obj × Option Obj}
    (hzones : ∀ value, zones.2 = some value → value = .string (lit "SYSTEM")) (t : State) :
    chooseZone E zones t = (serverTimeZone E zones >>= setTimeZone E) t := by
  have hunset : isUnset zones.2 = .ok true := by
    cases h : zones.2 with
    | none => rfl
    | some value =>
        obtain rfl := hzones value h
        exact congrArg Except.ok (decide_eq_true rfl)
  rw [chooseZone, hunset]
  rfl

/-- The second query gives no row. -/
theorem serverTimeZone_nil (h : Gives E (legacyVariables E s) []) (session : Option Obj) :
    serverTimeZone E (none, session) (zoneVariables E s).2 =
      (.ok session, (legacyVariables E s).2) := by
  obtain ⟨result, hquery, hrows⟩ :=
    Gives.run (m := query E (lit "SHOW VARIABLES LIKE 'timezone'") []) h
  rw [serverTimeZone, bind_of_ok hquery, bind_of_ok (get_apply _), hrows]
  rfl

/-- The second query gives the row of the variable. -/
theorem serverTimeZone_row (h : Gives E (legacyVariables E s) [variable_row "timezone" value])
    (session : Option Obj) :
    serverTimeZone E (none, session) (zoneVariables E s).2 =
      (.ok (some value), (legacyVariables E s).2) := by
  obtain ⟨result, hquery, hrows⟩ :=
    Gives.run (m := query E (lit "SHOW VARIABLES LIKE 'timezone'") []) h
  rw [serverTimeZone, bind_of_ok hquery, bind_of_ok (get_apply _), hrows]
  rfl

/-- The method sets the zone to the value it takes, or raises because that is no name. -/
theorem getTimeZone_taken (h : Answered E s rows rows') (ht : Taken rows rows' value) :
    (∃ t, getTimeZone E s = setTimeZone E (some value) t) ∨
      (∀ name, value ≠ .string name) ∧ (getTimeZone E s).1 = .error .raised := by
  obtain ⟨zones, hzones, hsystem, hsession⟩ := readZones_reads h.lists none none
  rw [getTimeZone_eq h hzones]
  have hserver (hunset : Unset rows) :
      chooseZone E zones (zoneVariables E s).2 =
        (serverTimeZone E zones >>= setTimeZone E) (zoneVariables E s).2 :=
    chooseZone_server (fun v hv => hunset v ((hsession.iff_mem v).mp hv)) _
  cases ht with
  | session hmem hvalue =>
      rcases chooseZone_session ((hsession.iff_mem value).mpr hmem) hvalue (zoneVariables E s).2
        with hset | hraise
      · exact .inl ⟨_, hset⟩
      · exact .inr hraise
  | system hunset hmem =>
      have hfirst : zones = (some value, zones.2) :=
        Prod.ext ((hsystem.iff_mem value).mpr hmem) rfl
      rw [hserver hunset, hfirst]
      exact .inl ⟨_, rfl⟩
  | legacy hunset hsilent hmem =>
      have hfirst : zones = (none, zones.2) := Prod.ext (hsystem.eq_none_iff.mpr hsilent) rfl
      obtain rfl | ⟨other, rfl⟩ := h.listsLegacy
      · cases hmem
      · obtain rfl : value = other := by
          obtain ⟨-, htail⟩ := List.cons.inj (List.mem_singleton.mp hmem)
          exact (List.cons.inj htail).1
        rw [hserver hunset, hfirst, bind_of_ok (serverTimeZone_row (h.second hunset hsilent) _)]
        exact .inl ⟨_, rfl⟩
  | own hmem hsilent hnil =>
      subst hnil
      have hsystemName : zones.2 = some (.string (lit "SYSTEM")) := (hsession.iff_mem _).mpr hmem
      have hunset : Unset rows := fun v hv =>
        (Option.some.inj (hsystemName.symm.trans ((hsession.iff_mem v).mpr hv))).symm
      have hfirst : zones = (none, some (.string (lit "SYSTEM"))) :=
        Prod.ext (hsystem.eq_none_iff.mpr hsilent) hsystemName
      rw [hserver hunset, hfirst, bind_of_ok (serverTimeZone_nil (h.second hunset hsilent) _)]
      exact .inl ⟨_, rfl⟩

/-- Where no value is taken the zone is kept. -/
theorem getTimeZone_untaken (h : Answered E s rows rows') (hnone : ∀ v, ¬ Taken rows rows' v) :
    (getTimeZone E s).1 = .ok () ∧ (getTimeZone E s).2.timeZone = s.timeZone := by
  obtain ⟨zones, hzones, hsystem, hsession⟩ := readZones_reads h.lists none none
  have hunset : Unset rows := fun v hv => by_contra fun hne => hnone v (.session hv hne)
  have hsilent : Silent rows := fun v hv => hnone v (.system hunset hv)
  obtain rfl | ⟨other, rfl⟩ := h.listsLegacy
  · have hnoSession : zones.2 = none := by
      refine hsession.eq_none_iff.mpr fun v hv => ?_
      obtain rfl := hunset v hv
      exact hnone _ (.own hv hsilent rfl)
    have hfirst : zones = (none, none) := Prod.ext (hsystem.eq_none_iff.mpr hsilent) hnoSession
    have hrun : getTimeZone E s = (.ok (), (legacyVariables E s).2) := by
      have hserver := chooseZone_server (E := E)
        (fun v hv => hunset v ((hsession.iff_mem v).mp hv)) (zoneVariables E s).2
      rw [getTimeZone_eq h hzones, hserver, hfirst,
        bind_of_ok (serverTimeZone_nil (h.second hunset hsilent) _)]
      rfl
    rw [hrun]
    exact ⟨rfl, legacyVariables_timeZone s⟩
  · exact absurd (.legacy hunset hsilent List.mem_cons_self) (hnone other)

/-! ## The value and the name -/

theorem variable_row_inj {name : String} {other : Obj}
    (h : variable_row name value = variable_row name other) : value = other :=
  (List.cons.inj (List.cons.inj h).2).1

/-- A variable has one value. -/
theorem ListsVariables.unique (h : ListsVariables rows) {name : String} {other : Obj}
    (hv : variable_row name value ∈ rows) (ho : variable_row name other ∈ rows) :
    value = other :=
  variable_row_inj (List.inj_on_of_nodup_map h.once hv ho rfl)

/-- At most one value is taken. -/
theorem Taken.unique (h : Answered E s rows rows') {other : Obj} (hv : Taken rows rows' value)
    (ho : Taken rows rows' other) : value = other := by
  cases hv with
  | session hmem hne =>
      cases ho with
      | session hmem' _ => exact h.lists.unique hmem hmem'
      | system hunset _ => exact absurd (hunset _ hmem) hne
      | legacy hunset _ _ => exact absurd (hunset _ hmem) hne
      | own hmem' _ _ => exact h.lists.unique hmem hmem'
  | system hunset hmem =>
      cases ho with
      | session hmem' hne => exact absurd (hunset _ hmem') hne
      | system _ hmem' => exact h.lists.unique hmem hmem'
      | legacy _ hsilent _ => exact absurd hmem (hsilent _)
      | own _ hsilent _ => exact absurd hmem (hsilent _)
  | legacy hunset hsilent hmem =>
      cases ho with
      | session hmem' hne => exact absurd (hunset _ hmem') hne
      | system _ hmem' => exact absurd hmem' (hsilent _)
      | legacy _ _ hmem' =>
          obtain rfl | ⟨only, rfl⟩ := h.listsLegacy
          · cases hmem
          · exact (variable_row_inj (List.mem_singleton.mp hmem)).trans
              (variable_row_inj (List.mem_singleton.mp hmem')).symm
      | own _ _ hnil =>
          subst hnil
          cases hmem
  | own hmem hsilent hnil =>
      cases ho with
      | session hmem' _ => exact h.lists.unique hmem hmem'
      | system _ hmem' => exact absurd hmem' (hsilent _)
      | legacy _ _ hmem' =>
          subst hnil
          cases hmem'
      | own _ _ _ => rfl

/-- Every value that is taken is the name of a known zone. -/
def TakesKnown (E : Environment) (rows rows' : List (List Obj)) : Prop :=
  ∀ value, Taken rows rows' value →
    ∃ name, value = .string name ∧ (E.timeZoneWithName name).isSome = true

/-- A name the rows give is then the value that is taken. -/
theorem Names.taken (hknown : TakesKnown E rows rows') {name : NSString}
    (h : Names rows rows' name) : Taken rows rows' (.string name) := by
  have hunset (hsession : ∀ other, variable_row "time_zone" (.string other) ∈ rows →
      other = lit "SYSTEM") : Unset rows := by
    intro v hv
    by_contra hne
    obtain ⟨other, rfl, -⟩ := hknown v (.session hv hne)
    exact hne (congrArg Obj.string (hsession other hv))
  cases h with
  | session hmem hne => exact .session hmem fun heq => hne (Obj.string.inj heq)
  | system hsession hmem => exact .system (hunset hsession) hmem
  | legacy hsession hsystem hmem =>
      refine .legacy (hunset hsession) (fun v hv => ?_) hmem
      obtain ⟨other, rfl, -⟩ := hknown v (.system (hunset hsession) hv)
      exact hsystem other hv

/-- The name of a known zone that is taken is one the rows give. -/
theorem Taken.names (hsystem : E.timeZoneWithName (lit "SYSTEM") = none) {name : NSString}
    (h : Taken rows rows' (.string name))
    (hknown : (E.timeZoneWithName name).isSome = true) : Names rows rows' name := by
  have hsession (hunset : Unset rows) (other : NSString)
      (hmem : variable_row "time_zone" (.string other) ∈ rows) : other = lit "SYSTEM" :=
    Obj.string.inj (hunset _ hmem)
  cases h with
  | session hmem hne => exact .session hmem fun heq => hne (congrArg Obj.string heq)
  | system hunset hmem => exact .system (hsession hunset) hmem
  | legacy hunset hsilent hmem => exact .legacy (hsession hunset) (fun _ => hsilent _) hmem
  | own _ _ _ =>
      rw [hsystem] at hknown
      cases hknown

/-- The session gets the zone the variables name, and keeps its zone where they name none
that is known, exactly if the value the method takes, if any, is the name of a known
zone. -/
theorem getTimeZone_iff {previous : NSTimeZone} (h : Answered E s rows rows')
    (hprevious : s.timeZone = some previous)
    (hsystem : E.timeZoneWithName (lit "SYSTEM") = none) :
    Resolves E previous rows rows' (getTimeZone E s) ↔ TakesKnown E rows rows' := by
  constructor
  · rintro ⟨hok, zone, hzone, -⟩ v hv
    rcases getTimeZone_taken h hv with ⟨t, hset⟩ | ⟨-, hraise⟩
    · rw [hset] at hok hzone
      obtain ⟨name, hname, hknown⟩ := (setTimeZone_iff v t zone).mp ⟨hok, hzone⟩
      exact ⟨name, hname, by rw [hknown]; rfl⟩
    · rw [hraise] at hok
      cases hok
  · intro hknown
    by_cases htaken : ∃ v, Taken rows rows' v
    · obtain ⟨v, hv⟩ := htaken
      obtain ⟨name, rfl, hsome⟩ := hknown v hv
      obtain ⟨zone, hzone⟩ := Option.isSome_iff_exists.mp hsome
      rcases getTimeZone_taken h hv with ⟨t, hset⟩ | ⟨hnone, -⟩
      · obtain ⟨hok, hnew⟩ := (setTimeZone_iff (.string name) t zone).mpr ⟨name, rfl, hzone⟩
        rw [Resolves, hset]
        refine ⟨hok, zone, hnew, fun other hother => ?_, fun hno => ?_⟩
        · obtain rfl : name = other := Obj.string.inj (hv.unique h (hother.taken hknown))
          rw [hzone]
          rfl
        · exact absurd (hv.names hsystem hsome) (hno name)
      · exact absurd rfl (hnone name)
    · have hnone : ∀ v, ¬ Taken rows rows' v := fun v hv => htaken ⟨v, hv⟩
      obtain ⟨hok, hkept⟩ := getTimeZone_untaken h hnone
      refine ⟨hok, previous, hkept.trans hprevious, fun name hname => ?_, fun _ => rfl⟩
      exact absurd (hname.taken hknown) (hnone _)

end

end

/-! ## Two servers -/

theorem gives_of_toOption {E : Environment}
    {outcome : Except Halt (Option MGMMyResult) × State} {rows : List (List Obj)}
    (h : outcome.1.toOption.map (rowsOf E.foundation (outcome.2.zone E)) = some rows) :
    Gives E outcome rows := by
  obtain ⟨result, hresult, hrows⟩ := Option.map_eq_some_iff.mp h
  obtain ⟨outcome, t⟩ := outcome
  cases outcome with
  | error e => cases hresult
  | ok r =>
      obtain rfl := Option.some.inj hresult
      exact ⟨r, rfl, hrows⟩

/-- The columns of `SHOW VARIABLES`. -/
def variableColumns : List MYSQL_FIELD :=
  [⟨cString (ascii "Variable_name"), .var_string, 0⟩, ⟨cString (ascii "Value"), .var_string, 0⟩]

/-- A server in this zone, and a machine that knows one zone. -/
def inZone (zone : String) : Environment :=
  { hangingUp with
    timeZoneWithName := fun name => if name = lit "Europe/Berlin" then some ⟨name⟩ else none
    packet := fun _ => .ok []
    reply := fun _ => .columns variableColumns (.rows
      [[some (ascii "system_time_zone"), some (ascii "CET")],
        [some (ascii "time_zone"), some (ascii zone)]] (by simp [variableColumns]) false) }

/-- The rows of that server. -/
def zoneRows (zone : String) : List (List Obj) :=
  [variable_row "system_time_zone" (.string (lit "CET")),
    variable_row "time_zone" (.string (lit zone))]

/-- An object as `connectWithHost:` has it when it asks for the zone. -/
def connected (E : Environment) : State :=
  attempted E ⟨some (cString (ascii "h")), none, none, 3306, some MYSQL_UNIX_ADDR⟩ 0
    (reopened E (init E State.blank).2)

theorem answered_inZone (zone : String)
    (hconnected : (isConnected (inZone zone) (connected (inZone zone))).1 = .ok true)
    (hfirst : (zoneVariables (inZone zone) (connected (inZone zone))).1.toOption.map
      (rowsOf (inZone zone).foundation
        ((zoneVariables (inZone zone) (connected (inZone zone))).2.zone (inZone zone))) =
      some (zoneRows zone)) :
    Answered (inZone zone) (connected (inZone zone)) (zoneRows zone) [] where
  connected := hconnected
  first := gives_of_toOption hfirst
  second _ hsilent := absurd List.mem_cons_self (hsilent (.string (lit "CET")))
  lists :=
    { shape := by
        intro row hrow
        simp only [zoneRows, List.mem_cons, List.not_mem_nil, or_false] at hrow
        obtain rfl | rfl := hrow
        · exact ⟨_, _, rfl⟩
        · exact ⟨_, _, rfl⟩
      once := by
        have hnames : [some (Obj.string (lit "system_time_zone")),
            some (Obj.string (lit "time_zone"))].Nodup := by decide
        exact hnames }
  listsLegacy := .inl rfl

theorem getTimeZone_iff_inZone :
    Resolves (inZone "Europe/Berlin") (inZone "Europe/Berlin").defaultTimeZone
        (zoneRows "Europe/Berlin") []
        (getTimeZone (inZone "Europe/Berlin") (connected (inZone "Europe/Berlin"))) ↔
      TakesKnown (inZone "Europe/Berlin") (zoneRows "Europe/Berlin") [] :=
  getTimeZone_iff (answered_inZone "Europe/Berlin" (by decide +kernel) (by decide +kernel)) rfl rfl

/-- A zone that is an offset has no name, and the object is left without one. -/
theorem not_getTimeZone :
    ¬ ∀ (E : Environment) (s : State) (previous : NSTimeZone) (rows rows' : List (List Obj)),
      Answered E s rows rows' → s.timeZone = some previous →
      E.timeZoneWithName (lit "SYSTEM") = none →
      Resolves E previous rows rows' (getTimeZone E s) := by
  intro h
  obtain ⟨-, zone, hzone, -⟩ := h (inZone "+02:00") (connected (inZone "+02:00"))
    (inZone "+02:00").defaultTimeZone (zoneRows "+02:00") []
    (answered_inZone "+02:00" (by decide +kernel) (by decide +kernel)) rfl rfl
  have hlost : (getTimeZone (inZone "+02:00") (connected (inZone "+02:00"))).2.timeZone = none := by
    decide +kernel
  rw [hlost] at hzone
  cases hzone

end MyConnection

end MGMDB
