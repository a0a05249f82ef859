import MGMDB.MySQL.Result

/-!
# Rows in the buffer

`cli_read_rows` copies the values of a row into one buffer, each with a NUL behind
it, and keeps a pointer to every value and one behind the last.  No length is
kept.  `cli_fetch_lengths` finds the lengths again from the distances of the
pointers, and a NULL pointer is a value that is NULL.  `copyRow_storeRow` says
that the row methods copy just what the server sent.
-/

namespace MGMDB

/-- The buffer of a row, a pointer for every column, and the pointer behind the last
value. -/
structure RowBuffer where
  bytes : List UInt8
  data : List (Option Nat)
  last : Nat

/-- The loop of `cli_read_rows` over the columns of one row, from a place of
the buffer on. -/
def storeRow : MYSQL_ROW → Nat → RowBuffer
  | [], place => ⟨[], [], place⟩
  | none :: row, place =>
      let stored := storeRow row place
      { stored with data := none :: stored.data }
  | some value :: row, place =>
      let stored := storeRow row (place + (value.length + 1))
      { stored with bytes := value ++ 0 :: stored.bytes, data := some place :: stored.data }

/-- The loop of `cli_fetch_lengths` over the pointers of the columns and the last one.
`start` has the last pointer that was not NULL and the place of its length. -/
def cli_fetch_lengths : List (Option Nat) → Nat → Option (Nat × Nat) → List Nat → List Nat
  | [], _, _, lengths => lengths
  | none :: column, i, start, lengths =>
      cli_fetch_lengths column (i + 1) start (lengths.set i 0)
  | some place :: column, i, start, lengths =>
      cli_fetch_lengths column (i + 1) (some (place, i))
        (match start with
        | some (start, prev_length) => lengths.set prev_length (place - start - 1)
        | none => lengths)

/-- The values the row methods copy out of the buffer of a row that begins at `base`. -/
def copyRow (base : Nat) (row : RowBuffer) : MYSQL_ROW :=
  List.zipWith
    (fun pointer length => pointer.map fun place => (row.bytes.drop (place - base)).take length)
    row.data
    (cli_fetch_lengths (row.data ++ [some row.last]) 0 none (List.replicate row.data.length 0))

/-! ## The lengths -/

/-- What the next pointer that is not NULL writes. -/
def settle (start : Option (Nat × Nat)) (place : Nat) (lengths : List Nat) : List Nat :=
  match start with
  | some (start, prev_length) => lengths.set prev_length (place - start - 1)
  | none => lengths

theorem length_settle (start : Option (Nat × Nat)) (place : Nat) (lengths : List Nat) :
    (settle start place lengths).length = lengths.length := by
  cases start with
  | none => rfl
  | some pending => exact List.length_set

theorem take_succ_set {l : List Nat} {i : Nat} (h : i < l.length) (n : Nat) :
    (l.set i n).take (i + 1) = l.take i ++ [n] := by
  rw [List.take_add_one, List.getElem?_set_self h, List.take_set_of_le (Nat.le_refl i)]
  rfl

/-- The pending length is one of an earlier column. -/
def Pending (start : Option (Nat × Nat)) (i : Nat) : Prop := ∀ pending ∈ start, pending.2 < i

theorem settle_set {start : Option (Nat × Nat)} {i : Nat} (h : Pending start i) (place : Nat)
    (lengths : List Nat) :
    settle start place (lengths.set i 0) = (settle start place lengths).set i 0 := by
  cases start with
  | none => rfl
  | some pending => exact List.set_comm _ _ (Nat.ne_of_gt (h pending rfl))

/-- The length of a value, 0 for NULL. -/
def valueLength (value : Option NSData) : Nat := (value.map List.length).getD 0

/-- From a column on, the loop writes the lengths of the values. -/
theorem cli_fetch_lengths_storeRow (row : MYSQL_ROW) : ∀ (place i : Nat)
    (start : Option (Nat × Nat)) (lengths : List Nat), Pending start i →
    lengths.length = i + row.length →
    cli_fetch_lengths ((storeRow row place).data ++ [some (storeRow row place).last]) i start lengths =
      (settle start place lengths).take i ++ row.map valueLength := by
  induction row with
  | nil =>
      intro place i start lengths hpending hlength
      have htake : (settle start place lengths).take i = settle start place lengths :=
        List.take_of_length_le (by rw [length_settle, hlength]; exact Nat.le_refl _)
      rw [htake, List.map_nil, List.append_nil]
      cases start <;> rfl
  | cons value row ih =>
      intro place i start lengths hpending hlength
      have hi : i < lengths.length := by
        rw [hlength, List.length_cons]
        omega
      cases value with
      | none =>
          have hnext : Pending start (i + 1) :=
            fun pending h => Nat.lt_succ_of_lt (hpending pending h)
          have hset : (lengths.set i 0).length = i + 1 + row.length := by
            rw [List.length_set, hlength, List.length_cons]
            omega
          have hrest := ih place (i + 1) start (lengths.set i 0) hnext hset
          rw [settle_set hpending, take_succ_set (by rw [length_settle]; exact hi),
            List.append_assoc] at hrest
          exact hrest
      | some value =>
          have hnext : Pending (some (place, i)) (i + 1) := by
            rintro pending ⟨⟩
            exact Nat.lt_succ_self i
          have hset : (settle start place lengths).length = i + 1 + row.length := by
            rw [length_settle, hlength, List.length_cons]
            omega
          have hrest := ih (place + (value.length + 1)) (i + 1) (some (place, i))
            (settle start place lengths) hnext hset
          have hsettle : settle (some (place, i)) (place + (value.length + 1))
              (settle start place lengths) = (settle start place lengths).set i value.length := by
            rw [settle]
            congr 1
            omega
          rw [hsettle, take_succ_set (by rw [length_settle]; exact hi), List.append_assoc] at hrest
          exact hrest

theorem length_data_storeRow (row : MYSQL_ROW) :
    ∀ place, (storeRow row place).data.length = row.length := by
  induction row with
  | nil => exact fun _ => rfl
  | cons value row ih =>
      intro place
      cases value with
      | none => exact congrArg (· + 1) (ih place)
      | some value => exact congrArg (· + 1) (ih _)

/-! ## The values -/

/-- What stands at the pointers, with the right lengths, is the row.  `before` is the
part of the buffer in front of it. -/
theorem zipWith_storeRow (row : MYSQL_ROW) : ∀ (base : Nat) (before : List UInt8),
    List.zipWith
      (fun pointer length => pointer.map fun place =>
        ((before ++ (storeRow row (base + before.length)).bytes).drop (place - base)).take length)
      (storeRow row (base + before.length)).data (row.map valueLength) = row := by
  induction row with
  | nil => exact fun _ _ => rfl
  | cons value row ih =>
      intro base before
      cases value with
      | none => exact congrArg (none :: ·) (ih base before)
      | some value =>
          have hplace : base + before.length + (value.length + 1) =
              base + (before ++ value ++ [0]).length := by
            simp only [List.length_append, List.length_singleton]
            omega
          have hbytes : (storeRow (some value :: row) (base + before.length)).bytes =
              value ++ 0 :: (storeRow row (base + (before ++ value ++ [0]).length)).bytes := by
            rw [← hplace]
            rfl
          have hdata : (storeRow (some value :: row) (base + before.length)).data =
              some (base + before.length) ::
                (storeRow row (base + (before ++ value ++ [0]).length)).data := by
            rw [← hplace]
            rfl
          have hrest := ih base (before ++ value ++ [0])
          rw [List.append_assoc, List.singleton_append, List.append_assoc, ← hbytes] at hrest
          rw [hdata, List.map_cons, List.zipWith_cons_cons, Option.map_some, hrest,
            Nat.add_sub_cancel_left, List.drop_left, hbytes, valueLength, Option.map_some,
            Option.getD_some, List.take_left]

/-- The row methods copy the values the server sent, with their lengths and NULLs. -/
theorem copyRow_storeRow (row : MYSQL_ROW) (base : Nat) :
    copyRow base (storeRow row base) = row := by
  have hlengths := cli_fetch_lengths_storeRow row base 0 none
    (List.replicate (storeRow row base).data.length 0) (fun _ h => by cases h)
    (by rw [List.length_replicate, length_data_storeRow, Nat.zero_add])
  rw [copyRow, hlengths, List.take_zero, List.nil_append]
  exact zipWith_storeRow row base []

end MGMDB
