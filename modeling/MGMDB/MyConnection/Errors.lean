import MGMDB.MyConnection.Queries

/-!
# The error number after a query to MySQL

`errorID` gives the number of the last command that reached the library, and 0
without a session.  A query that does not get to the library leaves the number
of an earlier one, so 0 does not say that the query was carried out.
`errorID_ne_zero_iff` says when it does.
-/

namespace MGMDB

/-- An error packet carries a number that is not 0. -/
def Reply.Numbered : Reply → Prop
  | .error errno _ | .columns _ (.error errno _) => errno ≠ 0
  | _ => True

namespace MyConnection

open Systems Program

/-- The server numbers its errors. -/
def Environment.NumbersErrors (E : Environment) : Prop := ∀ n, (E.reply n).Numbered

/-- The number of the last error of the object's handle. -/
def lastErrno (s : State) : Nat :=
  match s.MySQLConnection with
  | none => 0
  | some h => (s.memory h).mysql.last_errno

/-- A query that the server carried out. -/
def Call.carriesOut : Call → Bool
  | .command _ (.query _) .accepted => true
  | _ => false

/-- No query was carried out between two states. -/
def Unexecuted (s t : State) : Prop := ∀ c ∈ during s t, c.carriesOut = false

instance (s t : State) : Decidable (Unexecuted s t) :=
  inferInstanceAs (Decidable (∀ c ∈ during s t, c.carriesOut = false))

/-- There is a session, and the text of the query is sent or an error is left. -/
structure Reports (E : Environment) (s : State) (format : NSString) (ap : List Arg) : Prop where
  isConnected : s.isConnected = true
  number : Sendable E s format ap ∨ lastErrno s ≠ 0

/-! ## The number of a query that was sent -/

theorem cli_advanced_command_last_errno {mysql : MYSQL} {w : Written}
    (h : (mysql.cli_advanced_command w).1 = true) :
    (mysql.cli_advanced_command w).2.last_errno ≠ 0 := by
  rw [MYSQL.cli_advanced_command] at h ⊢
  split at h
  next hvio =>
    rw [if_pos hvio]
    exact Nat.succ_ne_zero _
  next hvio =>
    rw [if_neg hvio]
    split at h
    next hsync =>
      rw [if_pos hsync]
      exact Nat.succ_ne_zero _
    next hsync =>
      rw [if_neg hsync]
      cases w with
      | written => cases h
      | tooLarge => exact Nat.succ_ne_zero _
      | failed => exact Nat.succ_ne_zero _

/-- A query that was sent and not carried out leaves a number. -/
theorem query_last_errno {mysql : MYSQL} {text : NSString} (ht : text ≠ []) {w : Written}
    {reply : Reply} (hnumbered : reply.Numbered)
    (h : ended mysql w (executes reply) ≠ .accepted) :
    (MGMMyConnection.query mysql text w reply).2.last_errno ≠ 0 := by
  rw [ne_eq, ended_eq_accepted] at h
  have hadvanced := @cli_advanced_command_last_errno mysql w
  rw [MGMMyConnection.query, if_neg ht, MYSQL.mysql_query]
  cases hsent : mysql.cli_advanced_command w with
  | mk refused sent =>
    rw [hsent] at h hadvanced
    cases refused with
    | true => exact hadvanced rfl
    | false =>
        cases reply with
        | ok affected_rows insert_id more => exact absurd ⟨rfl, rfl⟩ h
        | error errno text => exact hnumbered
        | lost => exact Nat.succ_ne_zero _
        | columns fields data =>
            cases data with
            | rows data row_length more => exact absurd ⟨rfl, rfl⟩ h
            | error errno text => exact hnumbered
            | lost => exact Nat.succ_ne_zero _

section
variable {E : Environment} {s t : State}

theorem errorID_eq {n : Nat} (h : (errorID t).1 = .ok n) :
    n = if t.isConnected then lastErrno t else 0 := by
  cases hc : t.isConnected with
  | false =>
      simp only [errorID, bind_apply, get_apply, hc] at h
      exact (Except.ok.inj h).symm
  | true =>
      simp only [errorID, bind_apply, get_apply, hc, if_true, accessor] at h
      simp only [lastErrno, if_true]
      cases hp : t.MySQLConnection with
      | none =>
          rw [hp] at h
          cases h
      | some p =>
          rw [hp] at h
          exact (Except.ok.inj h).symm

theorem lastErrno_queried {h : Nat} (hp : s.MySQLConnection = some h) (text : NSString)
    (bytes : CString) (l : List Call) (stored : List Stored) :
    lastErrno (queried E s h text bytes l stored) =
      (MGMMyConnection.query (s.memory h).mysql text (E.written s.clock)
        (E.reply s.clock)).2.last_errno := by
  simp [lastErrno, queried, hp]

/-- What is read after a query that was not carried out is 0 unless there is a session
and the text was sent, or an earlier error is left. -/
theorem errorID_ne_zero_iff (hE : E.NumbersErrors) {format : NSString} {ap : List Arg}
    {result : Except Halt (Option MGMMyResult)} (hrun : query E format ap s = (result, t))
    (hcrash : result ≠ .error .crashed) (hunexecuted : Unexecuted s t) {n : Nat}
    (hid : (errorID t).1 = .ok n) : n ≠ 0 ↔ Reports E s format ap := by
  have hn := errorID_eq hid
  have hstale : ∀ l, t = { s with calls := l ++ s.calls } → ¬ Sendable E s format ap →
      (n ≠ 0 ↔ Reports E s format ap) := by
    rintro l rfl hunsent
    rw [hn]
    constructor
    · intro hne
      split at hne
      next hconnected => exact ⟨hconnected, .inr hne⟩
      next => exact absurd rfl hne
    · rintro ⟨hconnected, hnumber⟩
      rw [if_pos hconnected]
      exact hnumber.resolve_left hunsent
  cases query_queries hrun with
  | unsent hl hnone =>
      refine hstale _ rfl (not_sendable fun text hok => ?_)
      rcases hnone with hnone | hnone
      · rw [hnone] at hok
        cases hok
      · rw [hnone] at hok
        exact (Except.ok.inj hok).symm
  | raised hl hunsent => exact hstale _ rfl hunsent
  | crashed => exact absurd rfl hcrash
  | @sent l text bytes h stored hl hsendable htext hne hp =>
      have hfailed : ended (s.memory h).mysql (E.written s.clock) (executes (E.reply s.clock)) ≠
          .accepted := by
        intro hended
        obtain ⟨handle, text', hmem⟩ := (during_queried hl h text bytes stored).mpr hended
        exact Bool.false_ne_true (hunexecuted _ hmem).symm
      have herrno : lastErrno (queried E s h text bytes l stored) ≠ 0 := by
        rw [lastErrno_queried hp]
        exact query_last_errno hne (hE s.clock) hfailed
      rw [hn]
      constructor
      · intro hnumber
        split at hnumber
        next hconnected => exact ⟨hconnected, .inl hsendable⟩
        next => exact absurd rfl hnumber
      · rintro ⟨hconnected, -⟩
        rw [if_pos (by exact hconnected)]
        exact herrno

end

/-! ## Runs -/

/-- Whether a call ended the program. -/
def crashes : Option (Except Halt Value) → Bool
  | some (.error .crashed) => true
  | _ => false

/-- `query:` does not crash and carries nothing out, and right after it `errorID` is
`n`. -/
structure LeavesNumber (E : Environment) (s : State) (format : NSString) (ap : List Arg) (n : Nat) :
    Prop where
  alive : s.alive = true
  crashes : crashes ((object E).step s (.query format ap)).1 = false
  unexecuted : Unexecuted s ((object E).step s (.query format ap)).2
  number : ((object E).step ((object E).step s (.query format ap)).2 .errorID).1 =
    some (.ok (.number n))

theorem LeavesNumber.ne_zero_iff {E : Environment} (hE : E.NumbersErrors) {s : State}
    {format : NSString} {ap : List Arg} {n : Nat} (h : LeavesNumber E s format ap n) :
    n ≠ 0 ↔ Reports E s format ap := by
  obtain ⟨halive, hcrashes, hunexecuted, hnumber⟩ := h
  have hstep : (object E).step s (.query format ap) =
      (some (perform E (.query format ap) s).1, survived (perform E (.query format ap) s)) := by
    simp [object, halive]
  rw [hstep] at hcrashes hunexecuted hnumber
  cases hrun : query E format ap s with
  | mk result t =>
    have hlast : t.alive = true → ((object E).step t .errorID).1 = some (.ok (.number n)) →
        (errorID t).1 = .ok n := by
      intro halive' hid
      have hid' : some (perform E .errorID t).1 = some (.ok (.number n)) := by
        rw [← hid]
        simp [object, halive']
      obtain ⟨n', hn', hnumber'⟩ := map_eq_ok.mp (Prod.ext (Option.some.inj hid') rfl :
        perform E .errorID t = (.ok (.number n), (perform E .errorID t).2))
      injection hnumber' with hnumber'
      rw [hn', hnumber']
    have huses : Uses s t := ((respects_uses E).follows_query format ap).of_run hrun
    have halive' : t.alive = true := huses.alive.trans halive
    cases result with
    | ok r =>
        have hperform : perform E (.query format ap) s = (.ok (.result r), t) := map_of_ok hrun _
        rw [hperform] at hunexecuted hnumber
        have hend : (.ok r : Except Halt (Option MGMMyResult)) ≠ .error .crashed := by
          intro h
          cases h
        exact errorID_ne_zero_iff hE hrun hend hunexecuted (hlast halive' hnumber)
    | error e =>
        have hperform : perform E (.query format ap) s = (.error e, t) := map_of_error hrun _
        rw [hperform] at hcrashes hunexecuted hnumber
        cases e with
        | crashed => cases hcrashes
        | raised =>
            have hend : (.error .raised : Except Halt (Option MGMMyResult)) ≠ .error .crashed := by
              intro h
              cases h
            exact errorID_ne_zero_iff hE hrun hend hunexecuted (hlast halive' hnumber)

end MyConnection

end MGMDB
