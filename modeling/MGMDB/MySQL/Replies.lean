import MGMDB.MySQL.Packets

/-!
# Answers in packets

What the server sends for its answers, and what reading it does to the client.  An
answer in one packet is an `OK`, an error, or some other bytes.  A table comes as the
number of columns, a description of each, an end packet, the rows, and another end packet
that tells whether more results follow.  Instead of a row there may be an error.

`Transport.Gives` says which packets the network is going to yield.
-/

namespace MGMDB

open Framing Systems Program

/-! ## Packets -/

/-- `SERVER_MORE_RESULTS_EXISTS` in a status. -/
def moreResults (status : UInt16) : Bool := status &&& SERVER_MORE_RESULTS_EXISTS ≠ 0

/-- The fields of an `OK` packet, and what may stand behind them. -/
structure OkFields where
  affected_rows : UInt64
  insert_id : UInt64
  status : UInt16
  warnings : UInt16
  info : List UInt8

def okPacket (ok : OkFields) : List UInt8 :=
  0 :: (net_store_length ok.affected_rows ++ (net_store_length ok.insert_id ++
    (int2store ok.status.toNat ++ (int2store ok.warnings.toNat ++ ok.info))))

/-- The packet behind the last row. -/
def eofPacket (warnings status : UInt16) : List UInt8 :=
  254 :: (int2store warnings.toNat ++ int2store status.toNat)

def errorPacket (errno : UInt16) (text : List UInt8) : List UInt8 :=
  255 :: (int2store errno.toNat ++ text)

/-- The packet in front of the descriptions of columns. -/
def columnsPacket (columns : Nat) (extra : List UInt8) : List UInt8 :=
  net_store_length (.ofNat columns) ++ extra

/-- A row that a packet can have: there are columns, no length is longer than four bytes,
and neither is the length of the packet longer than eight. -/
structure Sendable (row : MYSQL_ROW) : Prop where
  ne_nil : row ≠ []
  short : ∀ value ∈ row, Short value
  length : (rowPacket row).length < 2 ^ 64

/-- A column and the row that describes it: the name is the fifth value, and the last value
has the type and the flags. -/
structure Description where
  field : MYSQL_FIELD
  row : MYSQL_ROW
  pos : NSData
  sendable : Sendable row
  row_length : row.length = 7
  name : row[4]? = some (some field.name.val)
  last : row[6]? = some (some pos)
  length : 10 ≤ pos.length
  type : field.type = Client.fieldType (pos.getD 6 0)
  flags : field.flags =
    if Client.INTERNAL_NUM_FIELD (pos.getD 6 0) (uint4korr (pos.drop 2)) then
      .ofNat (uint2korr (pos.drop 7)) ||| NUM_FLAG
    else .ofNat (uint2korr (pos.drop 7))

/-! ### Their first bytes -/

theorem net_store_length_head {n : UInt64} : ∃ b bytes, net_store_length n = b :: bytes ∧
    b ≠ 251 ∧ b ≠ 255 ∧ (b = 254 → 16777216 ≤ n) := by
  rw [net_store_length]
  split
  next h =>
    refine ⟨_, _, rfl, ?_⟩
    rw [UInt64.lt_iff_toNat_lt] at h
    change n.toNat < 251 at h
    have hbyte : n.toUInt8.toNat = n.toNat := by
      rw [UInt64.toNat_toUInt8]
      exact Nat.mod_eq_of_lt (Nat.lt_trans h (by decide))
    refine ⟨fun heq => ?_, fun heq => ?_, fun heq => ?_⟩ <;>
    · rw [heq] at hbyte
      rw [← hbyte] at h
      exact absurd h (by decide)
  next =>
    split
    next => exact ⟨_, _, rfl, by decide, by decide, fun h => absurd h (by decide)⟩
    next =>
      split
      next => exact ⟨_, _, rfl, by decide, by decide, fun h => absurd h (by decide)⟩
      next hlong => exact ⟨_, _, rfl, by decide, by decide, fun _ => UInt64.not_lt.mp hlong⟩

/-- The packet of a row is not taken for an error or for the end. -/
theorem rowPacket_plain {row : MYSQL_ROW} (h : Sendable row) :
    rowPacket row ≠ [] ∧ (rowPacket row).headD 0 ≠ 255 ∧ Client.isEof (rowPacket row) = false := by
  obtain ⟨hne, hshort, -⟩ := h
  cases row with
  | nil => exact absurd rfl hne
  | cons value row =>
      cases value with
      | none =>
          have hnull : (251 : UInt8) ≠ 255 := by decide
          exact ⟨List.cons_ne_nil _ _, hnull, rfl⟩
      | some value =>
          obtain ⟨b, bytes, hstore, -, herror, hlong⟩ :=
            @net_store_length_head (.ofNat value.length)
          have hpacket : rowPacket (some value :: row) =
              b :: (bytes ++ value ++ rowPacket row) := by
            rw [rowPacket, List.flatMap_cons, storeValue, hstore]
            rfl
          rw [hpacket]
          refine ⟨List.cons_ne_nil _ _, herror, decide_eq_false ?_⟩
          rintro ⟨heq, hlt⟩
          have hvalue : value.length < 2 ^ 32 := hshort _ List.mem_cons_self value rfl
          have hlarge := UInt64.le_iff_toNat_le.mp (hlong heq)
          rw [UInt64.toNat_ofNat_of_lt' (Nat.lt_trans hvalue (by decide))] at hlarge
          change 16777216 ≤ value.length at hlarge
          simp only [List.length_cons, List.length_append] at hlt
          omega

/-! ## What the network yields -/

namespace Transport

variable {σ : Type}

/-- Reading yields these packets one after the other. -/
inductive Gives (T : Transport σ) : σ → List (List UInt8) → σ → Prop where
  | nil (s : σ) : Gives T s [] s
  | cons {s t u : σ} {packet : List UInt8} {packets : List (List UInt8)} :
      T.my_net_read s = (.ok packet, t) → Gives T t packets u → Gives T s (packet :: packets) u

/-- Reading fails, or yields a packet of no bytes. -/
def Loses (T : Transport σ) (s t : σ) : Prop :=
  T.my_net_read s = (.error (.failed false), t) ∨ T.my_net_read s = (.ok [], t)

variable {T : Transport σ} {s t u : σ} {packets packets' : List (List UInt8)}

theorem Gives.append (h : T.Gives s packets t) (h' : T.Gives t packets' u) :
    T.Gives s (packets ++ packets') u := by
  induction h with
  | nil => exact h'
  | cons hread h ih => exact .cons hread (ih h')

theorem Gives.of_append (h : T.Gives s (packets ++ packets') u) :
    ∃ t, T.Gives s packets t ∧ T.Gives t packets' u := by
  induction packets generalizing s with
  | nil => exact ⟨s, .nil s, h⟩
  | cons packet packets ih =>
      cases h with
      | cons hread h =>
          obtain ⟨t, hfirst, hrest⟩ := ih h
          exact ⟨t, .cons hread hfirst, hrest⟩

theorem Gives.singleton {packet : List UInt8} (h : T.Gives s [packet] t) :
    T.my_net_read s = (.ok packet, t) := by
  cases h with
  | cons hread h =>
      cases h
      exact hread

end Transport

/-! ## What the server sends -/

section
variable {σ : Type}

/-- An error, with its number and its text. -/
inductive SendsError (T : Transport σ) : σ → Nat → CString → σ → Prop where
  | numbered {s t : σ} {errno : UInt16} {pos : List UInt8} {text : CString} : pos ≠ [] →
      Client.errorText pos = some text → T.my_net_read s = (.ok (errorPacket errno pos), t) →
      SendsError T s errno.toNat text t
  | unknown {s t : σ} {packet : List UInt8} : packet.headD 0 = 255 → packet.length ≤ 3 →
      T.my_net_read s = (.ok packet, t) →
      SendsError T s CR_UNKNOWN_ERROR (ER CR_UNKNOWN_ERROR) t

/-- Rows up to their end, or to an error, or to the loss of the session. -/
inductive SendsRows (T : Transport σ) {columns : Nat} : σ → RowData columns → σ → Prop where
  | rows {s t : σ} {data : List MYSQL_ROW} {hdata : ∀ row ∈ data, row.length = columns}
      {warnings status : UInt16} : (∀ row ∈ data, Sendable row) →
      T.Gives s (data.map rowPacket ++ [eofPacket warnings status]) t →
      SendsRows T s (.rows data hdata (moreResults status)) t
  | error {s t u : σ} {data : List MYSQL_ROW} {errno : Nat} {text : CString} :
      (∀ row ∈ data, row.length = columns ∧ Sendable row) → T.Gives s (data.map rowPacket) t →
      SendsError T t errno text u → SendsRows T s (.error errno text) u
  | lost {s t u : σ} {data : List MYSQL_ROW} :
      (∀ row ∈ data, row.length = columns ∧ Sendable row) → T.Gives s (data.map rowPacket) t →
      T.Loses t u → SendsRows T s .lost u

/-- The number of columns and their descriptions. -/
inductive SendsFields (T : Transport σ) : σ → List MYSQL_FIELD → σ → Prop where
  | fields {s t : σ} {columns : List Description} {extra : List UInt8} {warnings status : UInt16} :
      columns ≠ [] → columns.length < 2 ^ 32 →
      T.Gives s (columnsPacket columns.length extra ::
        (columns.map (rowPacket ·.row) ++ [eofPacket warnings status])) t →
      SendsFields T s (columns.map (·.field)) t

/-- An answer to a query. -/
inductive SendsReply (T : Transport σ) : σ → Reply → σ → Prop where
  | ok {s t : σ} (ok : OkFields) : T.my_net_read s = (.ok (okPacket ok), t) →
      SendsReply T s (.ok ok.affected_rows ok.insert_id (moreResults ok.status)) t
  | columns {s t u : σ} {fields : List MYSQL_FIELD} {data : RowData fields.length} :
      SendsFields T s fields t → SendsRows T t data u → SendsReply T s (.columns fields data) u
  | error {s t : σ} {errno : Nat} {text : CString} : SendsError T s errno text t →
      SendsReply T s (.error errno text) t
  | lost {s t : σ} : T.Loses s t → SendsReply T s .lost t

/-- An answer to `COM_PROCESS_INFO`. -/
inductive SendsProcesses (T : Transport σ) : σ → ProcessReply → σ → Prop where
  | columns {s t u : σ} {announced : Announced} : SendsFields T s announced.fields t →
      SendsRows T t announced.data u → SendsProcesses T s (.columns announced) u
  | error {s t : σ} {errno : Nat} {text : CString} : SendsError T s errno text t →
      SendsProcesses T s (.error errno text) t
  | lost {s t : σ} : T.Loses s t → SendsProcesses T s .lost t

/-- An answer in one packet. -/
inductive SendsPacket (T : Transport σ) : σ → Packet → σ → Prop where
  | ok {s t : σ} {bytes : NSData} : bytes ≠ [] → bytes.headD 0 ≠ 255 →
      T.my_net_read s = (.ok bytes, t) → SendsPacket T s (.ok bytes) t
  | error {s t : σ} {errno : Nat} {text : CString} : SendsError T s errno text t →
      SendsPacket T s (.error errno text) t
  | lost {s t : σ} : T.Loses s t → SendsPacket T s .lost t

end

/-! ## Reading -/

namespace Client

section
variable {σ : Type} {T : Transport σ} {c : Client σ} {t : σ} {packet : List UInt8}

theorem cli_safe_read_ok (hvio : c.vio = true) (hread : T.my_net_read c.net = (.ok packet, t))
    (hne : packet ≠ []) (hplain : packet.headD 0 ≠ 255) :
    cli_safe_read T c = (.ok packet, { c with net := t }) := by
  rw [cli_safe_read, if_pos hvio, hread]
  dsimp only
  rw [if_neg hne, if_neg hplain]

theorem cli_safe_read_error_packet (hvio : c.vio = true)
    (hread : T.my_net_read c.net = (.ok packet, t)) (hne : packet ≠ [])
    (herror : packet.headD 0 = 255) :
    cli_safe_read T c = error_packet packet { c with net := t } := by
  rw [cli_safe_read, if_pos hvio, hread]
  dsimp only
  rw [if_neg hne, if_pos herror]

theorem cli_safe_read_lost (hvio : c.vio = true) (h : T.Loses c.net t) :
    cli_safe_read T c = (.error .failed, { c with net := t }.lost false) := by
  rw [cli_safe_read, if_pos hvio]
  rcases h with h | h
  · rw [h]
  · rw [h]
    dsimp only
    rw [if_pos rfl]

theorem cli_safe_read_sent (hvio : c.vio = true) {errno : Nat} {text : CString}
    (h : SendsError T c.net errno text t) :
    cli_safe_read T c = (.error .failed, { c with net := t }.failedWith errno text) := by
  generalize hs : c.net = s at h
  subst hs
  cases h with
  | @numbered _ errno pos text hne htext hread =>
      have hlength : 3 < (errorPacket errno pos).length := by
        have hpos := List.length_pos_iff.mpr hne
        rw [errorPacket, List.length_cons, List.length_append, int2store, length_store]
        omega
      have hdrop : (errorPacket errno pos).drop 3 = pos := rfl
      rw [cli_safe_read_error_packet hvio hread (List.cons_ne_nil _ _) rfl, error_packet,
        if_pos hlength, hdrop, htext, errorPacket, List.drop_one, List.tail_cons,
        uint2korr_append (UInt16.toNat_lt errno)]
  | @unknown _ packet hhead hlength hread =>
      have hne : packet ≠ [] := by
        rintro rfl
        exact absurd hhead (by decide)
      rw [cli_safe_read_error_packet hvio hread hne hhead, error_packet,
        if_neg (Nat.not_lt_of_le hlength)]

/-! ### Rows -/

variable {columns : Nat} {c' : Client σ}

theorem cli_read_rows_of_error {fault : Fault} (h : cli_safe_read T c = (.error fault, c')) :
    cli_read_rows T columns c = (.error fault, c') := by
  rw [cli_read_rows]
  split
  next h' =>
    rw [h'] at h
    cases h
    rfl
  next h' => rw [h'] at h; cases h

theorem cli_read_rows_of_eof (h : cli_safe_read T c = (.ok packet, c'))
    (heof : isEof packet = true) : cli_read_rows T columns c = endRows packet c' := by
  rw [cli_read_rows]
  split
  next h' => rw [h'] at h; cases h
  next h' =>
    rw [h'] at h
    cases h
    rw [if_pos heof]

theorem cli_read_rows_of_row (h : cli_safe_read T c = (.ok packet, c'))
    (heof : isEof packet = false) {row : RowBuffer}
    (hrow : readRow columns packet c' = (.ok row, c')) :
    cli_read_rows T columns c =
      match cli_read_rows T columns c' with
      | (.error fault, c) => (.error fault, c)
      | (.ok rows, c) => (.ok (row :: rows), c) := by
  rw [cli_read_rows]
  split
  next h' => rw [h'] at h; cases h
  next h' =>
    rw [h'] at h
    cases h
    rw [if_neg (Bool.eq_false_iff.mp heof)]
    generalize readRow columns packet c' = run at hrow
    subst hrow
    rfl

theorem readRow_rowPacket {row : MYSQL_ROW} (hlength : row.length = columns) (h : Sendable row) :
    readRow columns (rowPacket row) c = (.ok (storeRow row 0), c) := by
  have hunpack := unpackRow_rowPacket h.short h.length [0]
  rw [hlength] at hunpack
  rw [readRow, hunpack]

/-- The rows in front of something else. -/
theorem cli_read_rows_rows {data : List MYSQL_ROW} (hvio : c.vio = true)
    (hdata : ∀ row ∈ data, row.length = columns ∧ Sendable row)
    (h : T.Gives c.net (data.map rowPacket) t) :
    cli_read_rows T columns c =
      match cli_read_rows T columns { c with net := t } with
      | (.error fault, c) => (.error fault, c)
      | (.ok rows, c) => (.ok (data.map (storeRow · 0) ++ rows), c) := by
  induction data generalizing c with
  | nil =>
      cases h
      rw [List.map_nil]
      generalize cli_read_rows T columns _ = run
      obtain ⟨result, c⟩ := run
      cases result <;> rfl
  | cons row data ih =>
      obtain ⟨hlength, hrow⟩ := hdata row List.mem_cons_self
      obtain ⟨hne, hplain, heof⟩ := rowPacket_plain hrow
      cases h with
      | @cons _ u _ _ _ hread h =>
          have hrest := @ih { c with net := u } hvio
            (fun row hmem => hdata row (List.mem_cons_of_mem _ hmem)) h
          rw [cli_read_rows_of_row (cli_safe_read_ok hvio hread hne hplain) heof
            (readRow_rowPacket hlength hrow), hrest]
          generalize cli_read_rows T columns _ = run
          obtain ⟨result, c⟩ := run
          cases result <;> rfl

/-- The client after the end of rows. -/
def ended (c : Client σ) (net : σ) (warnings status : UInt16) : Client σ :=
  { c with net := net, warning_count := warnings.toNat, server_status := status }

theorem eof_packet_eofPacket (warnings status : UInt16) :
    c.eof_packet (eofPacket warnings status) = c.ended c.net warnings status := by
  have hwarnings := uint2korr_append (UInt16.toNat_lt warnings) (int2store status.toNat)
  have hstatus := uint2korr_append (UInt16.toNat_lt status) []
  have hdrop : (eofPacket warnings status).drop 3 = int2store status.toNat ++ [] := by
    rw [List.append_nil]
    rfl
  rw [eof_packet, hdrop, hstatus, eofPacket, List.drop_one, List.tail_cons, hwarnings,
    UInt16.ofNat_toNat]
  rfl

theorem cli_read_rows_eof (hvio : c.vio = true) {warnings status : UInt16}
    (hread : T.my_net_read c.net = (.ok (eofPacket warnings status), t)) :
    cli_read_rows T columns c = (.ok [], c.ended t warnings status) := by
  have hlength : (eofPacket warnings status).length = 5 := rfl
  have hplain : (254 : UInt8) ≠ 255 := by decide
  rw [cli_read_rows_of_eof (cli_safe_read_ok hvio hread (List.cons_ne_nil _ _) hplain) rfl,
    endRows, hlength, if_neg (by decide), if_neg (by decide), eof_packet_eofPacket]
  rfl

/-- Rows up to their end. -/
theorem cli_read_rows_sent {data : List MYSQL_ROW} {warnings status : UInt16} (hvio : c.vio = true)
    (hdata : ∀ row ∈ data, row.length = columns ∧ Sendable row)
    (h : T.Gives c.net (data.map rowPacket ++ [eofPacket warnings status]) t) :
    cli_read_rows T columns c =
      (.ok (data.map (storeRow · 0)), c.ended t warnings status) := by
  obtain ⟨u, hrows, hend⟩ := h.of_append
  have heof := @cli_read_rows_eof σ T { c with net := u } t columns hvio _ _ hend.singleton
  rw [cli_read_rows_rows hvio hdata hrows, heof]
  dsimp only
  rw [List.append_nil]
  rfl

theorem cli_read_rows_failed {data : List MYSQL_ROW} {u : σ} {errno : Nat} {text : CString}
    (hvio : c.vio = true) (hdata : ∀ row ∈ data, row.length = columns ∧ Sendable row)
    (h : T.Gives c.net (data.map rowPacket) t) (herror : SendsError T t errno text u) :
    cli_read_rows T columns c = (.error .failed, { c with net := u }.failedWith errno text) := by
  have hfailed := @cli_safe_read_sent σ T { c with net := t } u hvio errno text herror
  rw [cli_read_rows_rows hvio hdata h, cli_read_rows_of_error hfailed]

theorem cli_read_rows_lost {data : List MYSQL_ROW} {u : σ} (hvio : c.vio = true)
    (hdata : ∀ row ∈ data, row.length = columns ∧ Sendable row)
    (h : T.Gives c.net (data.map rowPacket) t) (hloses : T.Loses t u) :
    cli_read_rows T columns c = (.error .failed, { c with net := u }.lost false) := by
  have hlost := @cli_safe_read_lost σ T { c with net := t } u hvio hloses
  rw [cli_read_rows_rows hvio hdata h, cli_read_rows_of_error hlost]

/-! ### Columns -/

theorem unpackField_storeRow (d : Description) : unpackField (storeRow d.row 0) = some d.field := by
  have hname : cString d.field.name.val = d.field.name :=
    Subtype.ext ((cString_val_eq_self_iff _).mpr d.field.name.property)
  rw [unpackField, copyRow_storeRow, d.name, d.last]
  dsimp only
  rw [if_neg (Nat.not_lt_of_le d.length), Option.getD_some, hname, ← d.type, ← d.flags]

theorem unpack_fields_rows (ds : List Description) :
    unpack_fields (ds.map (storeRow ·.row 0)) ds.length = some (ds.map (·.field)) := by
  rw [unpack_fields, List.length_map, if_pos rfl]
  induction ds with
  | nil => rfl
  | cons d ds ih =>
      rw [List.map_cons, List.mapM_cons, unpackField_storeRow, ih]
      rfl

/-- The client after the columns of a table. -/
def announced (c : Client σ) (fields : List MYSQL_FIELD) : Client σ :=
  { c with fields := some fields, status := .get_result }

/-- The descriptions are read. -/
theorem readFields_sent {ds : List Description} {warnings status : UInt16} (hvio : c.vio = true)
    (h : T.Gives c.net (ds.map (rowPacket ·.row) ++ [eofPacket warnings status]) t) :
    readFields T ds.length c =
      (.ok (), (c.ended t warnings status).announced (ds.map (·.field))) := by
  have hdata : ∀ row ∈ ds.map (·.row), row.length = 7 ∧ Sendable row := by
    intro row hmem
    obtain ⟨d, -, rfl⟩ := List.mem_map.mp hmem
    exact ⟨d.row_length, d.sendable⟩
  have hrows := @cli_read_rows_sent σ T c t 7 (ds.map (·.row)) warnings status hvio hdata
    (by rwa [List.map_map])
  rw [readFields, hrows, List.map_map]
  dsimp only
  rw [Function.comp_def, unpack_fields_rows]
  rfl

/-- The number of columns. -/
theorem net_field_length_columnsPacket {columns : Nat} (h : columns < 2 ^ 32)
    (extra : List UInt8) :
    net_field_length (columnsPacket columns extra) = some (.ofNat columns, extra) := by
  have hback : (UInt64.ofNat columns).toNat = columns :=
    UInt64.toNat_ofNat_of_lt' (Nat.lt_trans h (by decide))
  have htakes := takes_net_field_length (.ofNat columns) extra
  rwa [hback, Nat.mod_eq_of_lt h] at htakes

theorem columnsPacket_plain (columns : Nat) (extra : List UInt8) :
    columnsPacket columns extra ≠ [] ∧ (columnsPacket columns extra).headD 0 ≠ 255 := by
  obtain ⟨b, bytes, hstore, -, hplain, -⟩ := @net_store_length_head (.ofNat columns)
  rw [columnsPacket, hstore]
  exact ⟨List.cons_ne_nil _ _, hplain⟩

/-! ### Answers -/

/-- The client after an `OK`. -/
def okWith (c : Client σ) (ok : OkFields) : Client σ :=
  { c with
    affected_rows := ok.affected_rows
    insert_id := ok.insert_id
    server_status := ok.status
    warning_count := ok.warnings.toNat }

theorem readOk_okPacket (ok : OkFields) : readOk ((okPacket ok).drop 1) =
    some (ok.affected_rows, ok.insert_id, ok.status.toNat, ok.warnings.toNat) := by
  have hlength :
      4 ≤ (int2store ok.status.toNat ++ (int2store ok.warnings.toNat ++ ok.info)).length := by
    simp only [List.length_append, int2store, length_store]
    omega
  have hdrop : (int2store ok.status.toNat ++ (int2store ok.warnings.toNat ++ ok.info)).drop 2 =
      int2store ok.warnings.toNat ++ ok.info := rfl
  rw [readOk, okPacket, List.drop_one, List.tail_cons, takes_net_field_length_ll]
  dsimp only [bind, Option.bind]
  rw [takes_net_field_length_ll]
  dsimp only
  rw [if_neg (Nat.not_lt_of_le hlength), hdrop, uint2korr_append (UInt16.toNat_lt _),
    uint2korr_append (UInt16.toNat_lt _)]

theorem ok_packet_okPacket (ok : OkFields) :
    ok_packet ((okPacket ok).drop 1) c = (.ok (), c.okWith ok) := by
  rw [ok_packet, readOk_okPacket]
  dsimp only
  rw [UInt16.ofNat_toNat]
  rfl

theorem cli_read_query_result_ok (hvio : c.vio = true) {ok : OkFields}
    (hread : T.my_net_read c.net = (.ok (okPacket ok), t)) :
    cli_read_query_result T c = (.ok (), { c with net := t }.free_old_query.okWith ok) := by
  have hplain : (0 : UInt8) ≠ 255 := by decide
  have hlength : net_field_length (okPacket ok) = some (0, (okPacket ok).drop 1) := rfl
  rw [cli_read_query_result,
    bind_of_ok (cli_safe_read_ok hvio hread (List.cons_ne_nil _ _) hplain),
    bind_of_ok (modify_apply _ _), hlength]
  dsimp only
  rw [if_pos rfl, ok_packet_okPacket]

theorem cli_read_query_result_of_error {fault : Fault}
    (h : cli_safe_read T c = (.error fault, c')) :
    cli_read_query_result T c = (.error fault, c') := by
  rw [cli_read_query_result, bind_of_error h]

/-- The number of columns of a table is not taken for something else. -/
theorem field_count_ne {columns : Nat} (hne : columns ≠ 0) (hlt : columns < 2 ^ 32) :
    UInt64.ofNat columns ≠ 0 ∧ UInt64.ofNat columns ≠ NULL_LENGTH ∧
      (UInt64.ofNat columns).toNat % 2 ^ 32 = columns := by
  have hback : (UInt64.ofNat columns).toNat = columns :=
    UInt64.toNat_ofNat_of_lt' (Nat.lt_trans hlt (by decide))
  refine ⟨fun heq => ?_, fun heq => ?_, by rw [hback, Nat.mod_eq_of_lt hlt]⟩
  · rw [heq] at hback
    exact hne hback.symm
  · rw [heq] at hback
    rw [← hback] at hlt
    exact absurd hlt (by decide)

/-- The first packet of a table, and the descriptions behind it. -/
theorem cli_safe_read_fields (hvio : c.vio = true) {fields : List MYSQL_FIELD}
    (h : SendsFields T c.net fields t) :
    ∃ packet net count extra, cli_safe_read T c = (.ok packet, { c with net := net }) ∧
      net_field_length packet = some (count, extra) ∧ count ≠ 0 ∧ count ≠ NULL_LENGTH ∧
      ∀ c' : Client σ, c'.vio = true → c'.net = net → ∃ warnings status,
        readFields T (count.toNat % 2 ^ 32) c' =
          (.ok (), (c'.ended t warnings status).announced fields) := by
  cases h with
  | @fields _ ds extra warnings status hne hlt hgives =>
      cases hgives with
      | @cons _ net _ _ _ hread hgives =>
          obtain ⟨hnil, hplain⟩ := columnsPacket_plain ds.length extra
          obtain ⟨hzero, hnull, hcount⟩ :=
            field_count_ne (fun h => hne (List.length_eq_zero_iff.mp h)) hlt
          refine ⟨_, net, _, extra, cli_safe_read_ok hvio hread hnil hplain,
            net_field_length_columnsPacket hlt extra, hzero, hnull, ?_⟩
          rintro c' hlive rfl
          exact ⟨warnings, status, hcount.symm ▸ readFields_sent hlive hgives⟩

theorem cli_read_query_result_fields (hvio : c.vio = true) {fields : List MYSQL_FIELD}
    (h : SendsFields T c.net fields t) :
    ∃ net warnings status, cli_read_query_result T c =
      (.ok (), (({ c with net := net }.free_old_query.inTransaction).ended t warnings
        status).announced fields) := by
  obtain ⟨packet, net, count, extra, hread, hcount, hzero, hnull, hfields⟩ :=
    cli_safe_read_fields hvio h
  obtain ⟨warnings, status, hfields⟩ :=
    hfields ({ c with net := net }.free_old_query.inTransaction) hvio rfl
  refine ⟨net, warnings, status, ?_⟩
  rw [cli_read_query_result, bind_of_ok hread, bind_of_ok (modify_apply _ _), hcount]
  dsimp only
  rw [if_neg hzero, if_neg hnull, bind_of_ok (modify_apply _ _), hfields]

end

end Client

end MGMDB
