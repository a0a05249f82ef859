import MGMDB.MyConnection.Uses

/-!
# The handles of an object

An object keeps a pointer to its handle and a flag that the handle is connected,
and sets the two in different places.  The invariant `Inv` says what they have to
do with each other and with the calls so far: the pointer leads to a handle that
is not closed, and a connected one is the last one that a server accepted.

A handle that is left when the object ends is closed only if the flag is set.  So
all handles are closed in the end unless the last attempt to connect failed
(`allClosed_dealloc_iff`).
-/

namespace MGMDB

namespace MyConnection

open Systems Program

/-- The handle a call is given. -/
def Call.argument : Call → Option Nat
  | .mysql_real_connect handle _ _ | .mysql_close handle | .accessor handle
  | .command handle _ _ => handle
  | .mysql_init _ | .rangeOfCharacterFromSet _ => none

/-- The handle a server accepted last. -/
def lastAccepted : List Call → Option Nat
  | [] => none
  | .mysql_real_connect handle _ true :: _ => handle
  | _ :: before => lastAccepted before

/-- No handle is used after it was closed.  Later calls stand first. -/
def Disciplined (calls : List Call) : Prop :=
  calls.Pairwise fun later earlier =>
    ∀ h, earlier = .mysql_close (some h) → later.argument ≠ some h

/-- What holds of the handles between two calls of methods. -/
structure Inv (s : State) : Prop where
  allocated : ∀ h, s.MySQLConnection = some h → h < s.allocated
  not_closed : ∀ h, s.MySQLConnection = some h → .mysql_close (some h) ∉ s.calls
  connected : s.alive = true → s.isConnected = true →
    ∃ h, s.MySQLConnection = some h ∧ lastAccepted s.calls = some h
  argument_lt : ∀ c ∈ s.calls, ∀ h, c.argument = some h → h < s.allocated
  mysql_init_iff : ∀ h, .mysql_init (some h) ∈ s.calls ↔ h < s.allocated
  owned : ∀ h, h < s.allocated → s.MySQLConnection = some h ∨ .mysql_close (some h) ∈ s.calls
  disciplined : Disciplined s.calls

/-! ## Calls on the own handle -/

section
variable {pointer : Option Nat} {set : Bool} {c : Call}

theorem Call.OnOwn.argument (h : c.OnOwn pointer set) :
    c.argument = pointer ∨ c.argument = none := by
  cases h with
  | accessor => exact .inl rfl
  | command => exact .inl rfl
  | rangeOfCharacterFromSet => exact .inr rfl

theorem Call.OnOwn.ne_close (h : c.OnOwn pointer set) (p : Option Nat) : c ≠ .mysql_close p := by
  cases h <;> exact Call.noConfusion

theorem Call.OnOwn.ne_init (h : c.OnOwn pointer set) (p : Option Nat) : c ≠ .mysql_init p := by
  cases h <;> exact Call.noConfusion

theorem lastAccepted_cons (h : c.OnOwn pointer set) (before : List Call) :
    lastAccepted (c :: before) = lastAccepted before := by
  cases h <;> rfl

theorem lastAccepted_append {l : List Call} (h : ∀ c ∈ l, c.OnOwn pointer set)
    (before : List Call) : lastAccepted (l ++ before) = lastAccepted before := by
  induction l with
  | nil => rfl
  | cons c l ih =>
      rw [List.forall_mem_cons] at h
      rw [List.cons_append, lastAccepted_cons h.1, ih h.2]

/-- One more call keeps the discipline if its handle is open. -/
theorem Disciplined.cons {calls : List Call} (h : Disciplined calls)
    (hc : ∀ p, c.argument = some p → .mysql_close (some p) ∉ calls) : Disciplined (c :: calls) := by
  refine List.Pairwise.cons ?_ h
  intro earlier hearlier p hclose hargument
  subst hclose
  exact hc p hargument hearlier

theorem Disciplined.append {l calls : List Call} (h : Disciplined calls)
    (hl : ∀ c ∈ l, c.OnOwn pointer set)
    (hopen : ∀ p, pointer = some p → .mysql_close (some p) ∉ calls) : Disciplined (l ++ calls) := by
  induction l with
  | nil => exact h
  | cons c l ih =>
      rw [List.forall_mem_cons] at hl
      refine (ih hl.2).cons ?_
      intro p hp hclose
      rcases hl.1.argument with harg | harg
      · rcases List.mem_append.mp hclose with hclose | hclose
        · exact (hl.2 _ hclose).ne_close _ rfl
        · exact hopen p (harg.symm.trans hp) hclose
      · rw [harg] at hp
        cases hp

end

/-! ## One method -/

section
variable {E : Environment} {s t : State}

theorem inv_blank : Inv State.blank where
  allocated _ h := by cases h
  not_closed _ h := by cases h
  connected _ h := by cases h
  argument_lt _ h := by cases h
  mysql_init_iff h := iff_of_false List.not_mem_nil (Nat.not_lt_zero h)
  owned _ h := by cases h
  disciplined := List.Pairwise.nil

theorem Inv.uses (h : Inv s) (hu : Uses s t) : Inv t := by
  obtain ⟨l, hl, hown⟩ := hu.calls
  have hclose : ∀ p, .mysql_close p ∈ t.calls ↔ .mysql_close p ∈ s.calls := by
    intro p
    rw [hl, List.mem_append, or_iff_right fun hc => (hown _ hc).ne_close p rfl]
  refine ⟨?_, ?_, ?_, ?_, ?_, ?_, ?_⟩
  · rw [hu.MySQLConnection, hu.allocated]
    exact h.allocated
  · intro p hp
    rw [hclose]
    exact h.not_closed p (hu.MySQLConnection ▸ hp)
  · rw [hu.alive, hu.isConnected, hu.MySQLConnection, hl, lastAccepted_append hown]
    exact h.connected
  · intro c hc p hp
    rw [hu.allocated]
    rw [hl] at hc
    rcases List.mem_append.mp hc with hc | hc
    · rcases (hown c hc).argument with harg | harg
      · exact h.allocated p (harg.symm.trans hp)
      · rw [harg] at hp
        cases hp
    · exact h.argument_lt c hc p hp
  · intro p
    rw [hu.allocated, hl, List.mem_append, or_iff_right fun hc => (hown _ hc).ne_init _ rfl]
    exact h.mysql_init_iff p
  · intro p hp
    rw [hclose, hu.MySQLConnection]
    exact h.owned p (hu.allocated ▸ hp)
  · rw [hl]
    exact h.disciplined.append hown h.not_closed

/-- A session that is open is closed, and its handle forgotten. -/
theorem Inv.closed (h : Inv s) (halive : s.alive = true) : Inv (closed s) := by
  rw [MyConnection.closed]
  split
  next hconnected =>
    obtain ⟨p, hp, -⟩ := h.connected halive hconnected
    refine ⟨?_, ?_, ?_, ?_, ?_, ?_, ?_⟩
    · intro q hq
      cases hq
    · intro q hq
      cases hq
    · intro _ hfalse
      cases hfalse
    · intro c hc q hq
      rcases List.mem_cons.mp hc with rfl | hc
      · exact h.allocated q hq
      · exact h.argument_lt c hc q hq
    · intro q
      rw [List.mem_cons, or_iff_right Call.noConfusion]
      exact h.mysql_init_iff q
    · intro q hq
      rcases h.owned q hq with howned | hclosed
      · exact .inr (List.mem_cons.mpr (.inl (by rw [howned])))
      · exact .inr (List.mem_cons_of_mem _ hclosed)
    · exact h.disciplined.cons h.not_closed
  next => exact h

theorem Inv.initialised (h : Inv s) (hfree : s.isConnected = false) : Inv (initialised E s) := by
  rw [MyConnection.initialised]
  split
  next hp =>
    rw [mysql_init, modify_apply]
    split
    · -- the new handle has the first number that was not used
      have hnew : ∀ c ∈ s.calls, c.argument ≠ some s.allocated := by
        intro c hc harg
        exact absurd (h.argument_lt c hc _ harg) (Nat.lt_irrefl _)
      refine ⟨?_, ?_, ?_, ?_, ?_, ?_, ?_⟩
      · intro q hq
        cases hq
        exact Nat.lt_succ_self _
      · intro q hq hclose
        cases hq
        rw [List.mem_cons, or_iff_right Call.noConfusion] at hclose
        exact hnew _ hclose rfl
      · intro _ htrue
        exact absurd htrue (by simp [hfree])
      · intro c hc q hq
        rcases List.mem_cons.mp hc with rfl | hc
        · cases hq
        · exact Nat.lt_succ_of_lt (h.argument_lt c hc q hq)
      · intro q
        simp only [List.mem_cons, Call.mysql_init.injEq, Option.some.injEq, h.mysql_init_iff q]
        omega
      · intro q hq
        rcases Nat.lt_succ_iff_lt_or_eq.mp hq with hq | rfl
        · rcases h.owned q hq with howned | hclosed
          · rw [hp] at howned
            cases howned
          · exact .inr (List.mem_cons_of_mem _ hclosed)
        · exact .inl rfl
      · refine h.disciplined.cons ?_
        intro q hq
        cases hq
    · refine ⟨?_, ?_, ?_, ?_, ?_, ?_, ?_⟩
      · intro q hq
        cases hq
      · intro q hq
        cases hq
      · intro _ htrue
        exact absurd htrue (by simp [hfree])
      · intro c hc q hq
        rcases List.mem_cons.mp hc with rfl | hc
        · cases hq
        · exact h.argument_lt c hc q hq
      · intro q
        rw [List.mem_cons, or_iff_right (by simp)]
        exact h.mysql_init_iff q
      · intro q hq
        rcases h.owned q hq with howned | hclosed
        · rw [hp] at howned
          cases howned
        · exact .inr (List.mem_cons_of_mem _ hclosed)
      · refine h.disciplined.cons ?_
        intro q hq
        cases hq
  next => exact h

theorem Inv.reopened (h : Inv s) (halive : s.alive = true) : Inv (reopened E s) :=
  (h.closed halive).initialised (closed_isConnected s)

/-- An attempt to connect, refused or accepted. -/
theorem Inv.attempted (h : Inv s) {p : Nat} (hp : s.MySQLConnection = some p)
    (arguments : Arguments) : Inv (attempted E arguments p s) := by
  refine ⟨h.allocated, ?_, ?_, ?_, ?_, ?_, ?_⟩
  · intro q hq hclose
    rw [MyConnection.attempted, List.mem_cons, or_iff_right Call.noConfusion] at hclose
    exact h.not_closed q hq hclose
  · intro _ hconnected
    refine ⟨p, hp, ?_⟩
    change lastAccepted (.mysql_real_connect (some p) arguments _ :: s.calls) = some p
    change ((s.memory p).mysql_real_connect (E.mysql_real_connect s.clock)).1 = true at hconnected
    rw [hconnected]
    rfl
  · intro c hc q hq
    rcases List.mem_cons.mp hc with rfl | hc
    · exact h.allocated q (hp.trans hq)
    · exact h.argument_lt c hc q hq
  · intro q
    rw [MyConnection.attempted, List.mem_cons, or_iff_right Call.noConfusion]
    exact h.mysql_init_iff q
  · intro q hq
    rcases h.owned q hq with howned | hclosed
    · exact .inl howned
    · exact .inr (List.mem_cons_of_mem _ hclosed)
  · refine h.disciplined.cons ?_
    intro q hq
    exact h.not_closed q (hp.trans hq)

theorem Inv.connects (h : Inv s) (halive : s.alive = true) {result : Except Halt Bool}
    (hc : Connects E s result t) : Inv t := by
  have hreopened : Inv (MyConnection.reopened E s) := h.reopened halive
  have hzone := (respects_uses E).follows_getTimeZone
  refine hc.kept hreopened (fun p arguments hp => hreopened.attempted hp arguments) ?_
  intro p arguments result u _ hrun hattempted
  exact hattempted.uses (hzone.of_run hrun)

/-- The flag does not matter any more when the object is gone. -/
theorem Inv.gone (h : Inv s) (b : Bool) : Inv { s with isConnected := b, alive := false } :=
  { h with connected := fun hfalse => by cases hfalse }

theorem Inv.escapeSet (h : Inv s) (b : Bool) : Inv { s with escapeSet := b } :=
  { h with }

theorem kept_inv (E : Environment) : Kept E Inv where
  init := { inv_blank with connected := fun _ hfalse => by cases hfalse }
  escapeSet _ h := h.escapeSet true
  gone s h := h.gone s.isConnected
  uses s op hop _ h := h.uses (follows_perform (respects_uses E) hop s)
  connects _ _ _ hc halive h := h.connects halive hc
  closed _ halive h := h.closed halive
  dealloc s halive h := by
    rw [dealloc_apply]
    exact (h.closed halive).gone s.isConnected

end

/-! ## Every run -/

theorem Disciplined.not_mem {calls : List Call} {c : Call} {h : Nat} (hd : Disciplined (c :: calls))
    (hc : c.argument = some h) : .mysql_close (some h) ∉ calls := by
  intro hclose
  exact (List.pairwise_cons.mp hd).1 _ hclose h rfl hc

theorem Disciplined.count_le {calls : List Call} (hd : Disciplined calls) (h : Nat) :
    calls.count (.mysql_close (some h)) ≤ 1 := by
  induction calls with
  | nil => exact Nat.zero_le 1
  | cons c calls ih =>
      by_cases hc : c = .mysql_close (some h)
      · have hnone : .mysql_close (some h) ∉ calls := hd.not_mem (by rw [hc]; rfl)
        rw [hc, List.count_cons_self, List.count_eq_zero_of_not_mem hnone]
      · rw [List.count_cons_of_ne hc]
        exact ih (List.pairwise_cons.mp hd).2

/-- What a caller can rely on.  While the flag is set, the pointer leads to the
handle the server accepted last, which is open.  No handle is closed twice, and
none is used after it was closed. -/
structure HandlesKept (s : State) : Prop where
  connected : s.alive = true → s.isConnected = true →
    ∃ h, s.MySQLConnection = some h ∧ lastAccepted s.calls = some h ∧
      .mysql_close (some h) ∉ s.calls
  closed_once : ∀ h, s.calls.count (.mysql_close (some h)) ≤ 1
  disciplined : Disciplined s.calls

/-- In every run, with any outcomes of the library, the handles are kept so. -/
theorem handlesKept_after (E : Environment) (creation : Creation) (ops : List Op) :
    HandlesKept (after E creation ops) := by
  have hinv : Inv (after E creation ops) := (kept_inv E).after creation ops
  refine ⟨?_, hinv.disciplined.count_le, hinv.disciplined⟩
  intro halive hconnected
  obtain ⟨h, hp, hlast⟩ := hinv.connected halive hconnected
  exact ⟨h, hp, hlast, hinv.not_closed h hp⟩

/-! ## The end of an object -/

/-- Every handle that was allocated is closed. -/
def AllClosed (calls : List Call) : Prop :=
  ∀ h, .mysql_init (some h) ∈ calls → .mysql_close (some h) ∈ calls

theorem Inv.allClosed_iff {s : State} (h : Inv s) :
    AllClosed s.calls ↔ s.MySQLConnection = none := by
  constructor
  · intro hall
    cases hp : s.MySQLConnection with
    | none => rfl
    | some p =>
        have hinit : .mysql_init (some p) ∈ s.calls := (h.mysql_init_iff p).mpr (h.allocated p hp)
        exact absurd (hall p hinit) (h.not_closed p hp)
  · intro hp q hq
    rcases h.owned q ((h.mysql_init_iff q).mp hq) with howned | hclosed
    · rw [hp] at howned
      cases howned
    · exact hclosed

theorem closed_MySQLConnection_eq_none_iff (s : State) :
    (closed s).MySQLConnection = none ↔ s.MySQLConnection = none ∨ s.isConnected = true := by
  rw [closed]
  split
  next h => simp [h]
  next h => simp [h]

/-- After `dealloc` all handles are closed, unless there was one that was not
connected, because the last attempt to connect it failed. -/
theorem allClosed_dealloc_iff (E : Environment) (creation : Creation) (ops : List Op)
    (halive : (after E creation ops).alive = true) :
    AllClosed (after E creation (ops ++ [.dealloc])).calls ↔
      (after E creation ops).MySQLConnection = none ∨
        (after E creation ops).isConnected = true := by
  have hinv : Inv (after E creation ops) := (kept_inv E).after creation ops
  rw [after_dealloc halive]
  exact (hinv.closed halive).allClosed_iff.trans (closed_MySQLConnection_eq_none_iff _)

/-! ## Two servers -/

/-- A server that refuses every connection. -/
def refusing : Environment where
  foundation := default
  timeZoneWithName name := some ⟨name⟩
  defaultTimeZone := ⟨lit "GMT"⟩
  mysql_get_client_info := cString []
  mysql_init _ := true
  mysql_real_connect _ :=
    .refused 2003 (cString (ascii "Can't connect to MySQL server on 'h' (61)")) 0 0
  written _ := .written
  packet _ := .lost
  reply _ := .lost
  processReply _ := .lost

/-- A server that accepts every connection and then hangs up. -/
def hangingUp : Environment :=
  { refusing with
    mysql_real_connect := fun _ =>
      .accepted
        { host_info := cString [], server_version := cString [], protocol_version := 10
          thread_id := 1, more_results := false } }

/-- A connect call with a host. -/
def connectToHost : Op := .connectWithHost (some (lit "h")) 0 none none

theorem allClosed_dealloc_hangingUp :
    AllClosed (after hangingUp .init [connectToHost, .dealloc]).calls := by
  have halive : (after hangingUp .init [connectToHost]).alive = true := rfl
  exact (allClosed_dealloc_iff hangingUp .init [connectToHost] halive).mpr (.inr rfl)

/-- A handle whose connection was refused is never closed. -/
theorem not_allClosed_dealloc :
    ¬ ∀ (E : Environment) (creation : Creation) (ops : List Op),
      (after E creation ops).alive = true →
      AllClosed (after E creation (ops ++ [.dealloc])).calls := by
  intro h
  have hclosed := h refusing .init [connectToHost] rfl 0 (by decide)
  revert hclosed
  decide

end MyConnection

end MGMDB
