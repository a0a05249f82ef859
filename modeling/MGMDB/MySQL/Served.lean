import MGMDB.MySQL.Line
import MGMDB.MySQL.Simulation

/-!
# A table over the network

The client of packets on the line of `net_serv.cc`.  When the frames of packets have
arrived, in blocks or without compression, reading yields these packets (`Line.Holds.gives`).
So a table that a server writes with the functions of `net_serv.cc` is stored by the client
as it was, however the socket cuts the bytes (`Client.query_and_store_served`), and an
answer without rows is read as it was (`Client.query_served_ok`).  A packet
that is larger than the largest buffer ends the session (`Client.cli_safe_read_large`).
-/

namespace MGMDB

open Framing Systems Program

/-! ## Packets on the line -/

namespace Line

open NET

/-- What has arrived, with what is left from before, are the frames of packets, or blocks
that contain them. -/
inductive Holds (zlib : Zlib) (l : Line) (packets : List (List UInt8)) : Prop where
  | plain {rest : List UInt8} : l.net.compress = false → l.net.vio.Calm →
      l.net.vio.stream = numberedFrames l.net.pkt_nr packets ++ rest →
      (∀ p ∈ packets, p.length ≠ 0 →
        l.net.where_b + p.length < max l.net.max_packet l.net.max_packet_size) →
      Holds zlib l packets
  | compressed : Arrived zlib l.net packets → Intact packets → Holds zlib l packets

variable {zlib : Zlib} {hzlib : zlib.Lawful} {ready : Vio → Nat} {l : Line}

theorem read_of_run {result : Except Halt Nat} {net : NET}
    (h : my_net_read zlib l.net = (result, net)) :
    ∃ l', read hzlib l = ((result.map net.packetAt).mapError (fault · net), l') ∧ l'.net = net := by
  refine ⟨(read hzlib l).2, Prod.ext ?_ rfl, congrArg Prod.snd h⟩
  have hresult : (read hzlib l).1 = ((my_net_read zlib l.net).1.map
      (my_net_read zlib l.net).2.packetAt).mapError
      (fun halt => fault halt (my_net_read zlib l.net).2) := rfl
  rw [hresult, h]

/-- The next packet is read. -/
theorem Holds.next {packet : List UInt8} {packets : List (List UInt8)}
    (h : Holds zlib l (packet :: packets)) :
    ∃ l', (line hzlib ready).my_net_read l = (.ok packet, l') ∧ Holds zlib l' packets := by
  cases h with
  | @plain rest hc hcalm hstream hfits =>
      have hplace := l.readable.where_b hc
      rw [numberedFrames_cons, List.append_assoc] at hstream
      obtain ⟨net, hread, hjoined, hat, hwhere, hrest⟩ :=
        readPlain_frames hplace hc hcalm hstream (hfits packet List.mem_cons_self)
      have hrun : my_net_read zlib l.net = (.ok packet.length, net) := by
        rw [my_net_read, bind_of_ok (get_apply l.net), if_neg (Bool.eq_false_iff.mp hc), hread]
      obtain ⟨l', hline, rfl⟩ := @read_of_run zlib hzlib _ _ _ hrun
      rw [← hjoined.pkt_nr] at hrest
      refine ⟨l', hat ▸ hline,
        .plain (hjoined.compress.trans hc) (hjoined.moves.calm hcalm) hrest ?_⟩
      intro p hp hne
      have hlt := hfits p (List.mem_cons_of_mem packet hp) hne
      have hgrows := hjoined.grows.max_packet
      rw [hwhere, hjoined.max_packet_size]
      omega
  | compressed harrived hintact =>
      obtain ⟨net, hread, hat, hrest⟩ := harrived.next hzlib hintact
      have hrun : my_net_read zlib l.net = (.ok packet.length, net) := by
        rw [my_net_read, bind_of_ok (get_apply l.net), if_pos harrived.compress, hread]
      obtain ⟨l', hline, rfl⟩ := @read_of_run zlib hzlib _ _ _ hrun
      exact ⟨l', hat ▸ hline, .compressed hrest hintact.tail⟩

/-- The line yields the packets. -/
theorem Holds.gives {packets : List (List UInt8)} (h : Holds zlib l packets) :
    ∃ l', (line hzlib ready).Gives l packets l' := by
  induction packets generalizing l with
  | nil => exact ⟨l, .nil l⟩
  | cons packet packets ih =>
      obtain ⟨t, hread, hrest⟩ := h.next
      obtain ⟨l', hgives⟩ := ih hrest
      exact ⟨l', .cons hread hgives⟩

/-- A server `w` has done what was asked of it, and all that it has written has arrived. -/
structure Served (zlib : Zlib) (w : NET) (rs : List Request) (l : Line) : Prop where
  ready : Ready w l.net
  fits : ∀ q ∈ rs, q.Fits
  ok : (performAll zlib rs w).1 = .ok ()
  flushed : (performAll zlib rs w).2.write_pos = 0
  sent : (performAll zlib rs w).2.vio.written = w.vio.written ++ l.net.vio.stream
  calm : l.net.vio.Calm
  intact : w.compress = true → Intact (rs.flatMap Request.packets)
  room : ∀ p ∈ rs.flatMap Request.packets, MAX_PACKET_LENGTH + 2 * NET_HEADER_SIZE + p.length ≤
    max l.net.max_packet l.net.max_packet_size

/-- The line has the packets of a server. -/
theorem Served.holds (hzlib : zlib.Lawful) {w : NET} {rs : List Request}
    (h : Served zlib w rs l) : Holds zlib l (rs.flatMap Request.packets) := by
  obtain ⟨hblocks, hframes⟩ := h.ready.arrived hzlib h.fits (Prod.ext h.ok rfl) h.flushed h.sent
    rfl h.calm h.room
  cases hc : l.net.compress with
  | true => exact .compressed (hblocks hc) (h.intact (h.ready.compress.symm.trans hc))
  | false =>
      refine .plain hc h.calm (hframes hc) fun p hp hne => ?_
      have hle := h.room p hp
      have hpos : 0 < MAX_PACKET_LENGTH := by decide
      rw [h.ready.where_b]
      omega

end Line

/-! ## A query -/

/-- The packets of a table. -/
def tablePackets (ds : List Description) (data : List MYSQL_ROW) (extra : List UInt8)
    (warnings status warnings' status' : UInt16) : List (List UInt8) :=
  (columnsPacket ds.length extra :: (ds.map (rowPacket ·.row) ++ [eofPacket warnings status])) ++
    (data.map rowPacket ++ [eofPacket warnings' status'])

namespace Client

section
variable {σ : Type} {T : Transport σ} {c : Client σ} {t u : σ}

/-- A command that may be sent and is written. -/
theorem cli_advanced_command_ok (hvio : c.vio = true) (hstatus : c.status = .ready)
    (hmore : moreResults c.server_status = false) {command : UInt8} {arg : List UInt8}
    (hwrite : T.command command arg c.net = (.ok (), t)) :
    cli_advanced_command T command arg c = (.ok (), c.begun t) := by
  have hlive : ¬ (!c.vio) = true := by rw [hvio]; decide
  have hsync : ¬ (c.status ≠ .ready ∨ c.server_status &&& SERVER_MORE_RESULTS_EXISTS ≠ 0) := by
    rintro (hne | hbit)
    · exact hne hstatus
    · exact of_decide_eq_false hmore hbit
  rw [cli_advanced_command, if_neg hlive, if_neg hsync]
  have hclear : T.command command arg c.net_clear_error.net = (.ok (), t) := hwrite
  dsimp only
  rw [hclear]
  rfl

/-- The columns of a table, and what stays for the rows. -/
theorem cli_read_query_result_announced (hvio : c.vio = true) {fields : List MYSQL_FIELD}
    (h : SendsFields T c.net fields t) :
    ∃ c', cli_read_query_result T c = (.ok (), c') ∧ c'.vio = true ∧ c'.fields = some fields ∧
      c'.status = .get_result ∧ c'.net = t := by
  obtain ⟨_, _, _, hread⟩ := cli_read_query_result_fields hvio h
  exact ⟨_, hread, hvio, rfl, rfl, rfl⟩

/-- The rows behind the columns are stored. -/
theorem mysql_store_result_sent {fields : List MYSQL_FIELD} (hfields : c.fields = some fields)
    (hstatus : c.status = .get_result) (hvio : c.vio = true) {data : List MYSQL_ROW}
    {warnings status : UInt16} (hdata : ∀ row ∈ data, row.length = fields.length ∧ Sendable row)
    (hrows : T.Gives c.net (data.map rowPacket ++ [eofPacket warnings status]) u) :
    ∃ c', mysql_store_result T c = (.ok ⟨fields, data.map (storeRow · 0)⟩, c') ∧
      c'.status = .ready ∧ c'.net = u := by
  have hlive : { c with status := mysql_status.ready }.vio = true := hvio
  rw [mysql_store_result_announced T hfields hstatus, cli_read_rows_sent hlive hdata hrows]
  exact ⟨_, rfl, rfl, rfl⟩

/-- A table is stored as it was sent. -/
theorem query_and_store_sent (hvio : c.vio = true) (hstatus : c.status = .ready)
    (hmore : moreResults c.server_status = false) {query : CString}
    (hwrite : T.command COM_QUERY query.val c.net = (.ok (), t)) {ds : List Description}
    {data : List MYSQL_ROW} {extra : List UInt8} {warnings status warnings' status' : UInt16}
    (hne : ds ≠ []) (hlt : ds.length < 2 ^ 32)
    (hdata : ∀ row ∈ data, row.length = ds.length ∧ Sendable row)
    (hgives : T.Gives t (tablePackets ds data extra warnings status warnings' status') u) :
    ∃ c' c'' stored, mysql_query T query c = (.ok (), c') ∧
      mysql_store_result T c' = (.ok stored, c'') ∧ stored.table = (ds.map (·.field), data) ∧
      c''.status = .ready ∧ c''.net = u := by
  obtain ⟨v, hcolumns, hrows⟩ := hgives.of_append
  have hcommand := cli_advanced_command_ok hvio hstatus hmore hwrite
  obtain ⟨c', hquery, hlive, hfields, hresult, rfl⟩ :=
    cli_read_query_result_announced (c := c.begun t) hvio (.fields hne hlt hcolumns)
  have hlength : (ds.map (·.field)).length = ds.length := List.length_map _
  obtain ⟨c'', hstore, hready, hnet⟩ := mysql_store_result_sent hfields hresult hlive
    (hlength.symm ▸ hdata) hrows
  exact ⟨c', c'', _, (bind_of_ok hcommand _).trans hquery, hstore,
    Prod.ext rfl (map_copyRow_storeRow data), hready, hnet⟩

end

/-! ## Served queries -/

/-- A server with compression that has read a query. -/
def idServer : NET :=
  { NET.my_net_init 8192 (2 ^ 30) ⟨none, [], [.taken 200], []⟩ with
    pkt_nr := 1
    compress_pkt_nr := 1
    compress := true }

/-- A line to this server, on which every byte arrives alone. -/
def idLine (rs : List NET.Request) : Line where
  net := { NET.my_net_init 8192 (2 ^ 30) ⟨some [],
      (NET.performAll .stored rs idServer).2.vio.written.map (.bytes · []), [.taken 100], []⟩
    with compress := true }
  readable := ⟨fun _ => ⟨Nat.le_refl _, Nat.zero_le _⟩, fun _ => Nat.zero_le _⟩

/-- The line after a query of one byte. -/
def idAsked (rs : List NET.Request) : Except NetFault Unit × Line :=
  (line Zlib.lawful_stored fun _ => 0).command COM_QUERY (cString [83]).val (idLine rs)

/-- A table with one column and one row. -/
def idTable : List NET.Request :=
  (tablePackets [.id] [[some [55]]] [] 0 2 0 2).map .write ++ [.flush]

/-- The answer to a change of three rows. -/
def idChanged : List NET.Request := [.write (okPacket ⟨3, 9, 2, 1, []⟩), .flush]

theorem sendable_id : ∀ row ∈ [[some [(55 : UInt8)]]], row.length = 1 ∧ Sendable row :=
  List.forall_mem_singleton.mpr ⟨rfl, List.cons_ne_nil _ _, by simp [Short], by decide⟩

theorem packets_idTable : idTable.flatMap NET.Request.packets =
    tablePackets [.id] [[some [55]]] [] 0 2 0 2 := by
  decide +kernel

theorem packets_idChanged : idChanged.flatMap NET.Request.packets =
    [okPacket ⟨3, 9, 2, 1, []⟩] := rfl

theorem idAsked_ok : ∀ rs ∈ [idTable, idChanged], (idAsked rs).1 = .ok () := by decide +kernel

theorem served_id : ∀ rs ∈ [idTable, idChanged], (idAsked rs).2.Served .stored idServer rs := by
  refine List.forall_mem_cons.mpr ⟨?_, List.forall_mem_singleton.mpr ?_⟩
  all_goals exact {
    ready := ⟨by decide +kernel, by decide +kernel, by decide +kernel, by decide +kernel,
      by decide +kernel, rfl⟩
    fits := by simp [idTable, idChanged, tablePackets, NET.Request.Fits]
    ok := by decide +kernel
    flushed := by decide +kernel
    sent := by decide +kernel
    calm := by
      unfold Vio.Calm
      decide +kernel
    intact := fun _ => by
      unfold NET.Intact
      decide +kernel
    room := by decide +kernel }

section
variable {zlib : Zlib} (hzlib : zlib.Lawful) {ready : Vio → Nat} {c : Client Line} {query : CString}
  {l : Line} {w : NET} {rs : List NET.Request}

/-- What the client has of an answer without rows. -/
theorem query_served_ok (hvio : c.vio = true) (hstatus : c.status = .ready)
    (hmore : moreResults c.server_status = false)
    (hquery : (line hzlib ready).command COM_QUERY query.val c.net = (.ok (), l)) {ok : OkFields}
    (hanswer : rs.flatMap NET.Request.packets = [okPacket ok]) (hserved : l.Served zlib w rs) :
    ∃ c', mysql_query (line hzlib ready) query c = (.ok (), c') ∧
      c'.affected_rows = ok.affected_rows ∧ c'.insert_id = ok.insert_id ∧
      c'.server_status = ok.status ∧ c'.warning_count = ok.warnings.toNat ∧
      c'.fields = none ∧ c'.status = .ready := by
  have hholds := hserved.holds hzlib
  rw [hanswer] at hholds
  obtain ⟨u, hgives⟩ := @Line.Holds.gives zlib hzlib ready l _ hholds
  have hread := @cli_read_query_result_ok _ _ (c.begun l) u hvio ok hgives.singleton
  have hcommand := cli_advanced_command_ok hvio hstatus hmore hquery
  exact ⟨_, (bind_of_ok hcommand _).trans hread, rfl, rfl, rfl, rfl, rfl, hstatus⟩

theorem query_served_ok_changed : ∃ c',
    mysql_query (line Zlib.lawful_stored fun _ => 0) (cString [83]) (.rested (idLine idChanged)) =
      (.ok (), c') ∧ c'.affected_rows = 3 ∧ c'.insert_id = 9 ∧ c'.server_status = 2 ∧
      c'.warning_count = 1 ∧ c'.fields = none ∧ c'.status = .ready := by
  have hmem : idChanged ∈ [idTable, idChanged] := List.mem_cons_of_mem _ List.mem_cons_self
  have hquery : (line Zlib.lawful_stored fun _ => 0).command COM_QUERY (cString [83]).val
      (idLine idChanged) = (.ok (), (idAsked idChanged).2) := Prod.ext (idAsked_ok _ hmem) rfl
  exact query_served_ok Zlib.lawful_stored rfl rfl moreResults_zero hquery packets_idChanged
    (served_id _ hmem)

end

/-! ## A packet that is too large -/

/-- The client refuses a packet that does not fit into the largest buffer, and the session
is lost. -/
theorem cli_safe_read_large {zlib : Zlib} (hzlib : zlib.Lawful) (ready : Vio → Nat)
    {c : Client Line} (hvio : c.vio = true) (hio : IO_SIZE ∣ c.net.net.max_packet_size)
    (hsized : c.net.net.max_packet ≤ c.net.net.max_packet_size) (hcalm : c.net.net.vio.Calm)
    (hlarge : c.net.net.Oversized zlib) :
    ∃ c', cli_safe_read (line hzlib ready) c = (.error .failed, c') ∧ c'.vio = false ∧
      c'.fields = none ∧ c'.last_errno = CR_NET_PACKET_TOO_LARGE := by
  obtain ⟨net, hread, herrno⟩ := hlarge.my_net_read hzlib c.net.readable hio hsized hcalm
  obtain ⟨l, hline, -⟩ := @Line.read_of_run zlib hzlib _ _ _ hread
  have hfault : Line.fault .failed net = .failed true :=
    congrArg NetFault.failed (decide_eq_true herrno)
  have hrun : (line hzlib ready).my_net_read c.net = (.error (.failed true), l) := hfault ▸ hline
  refine ⟨{ c with net := l }.lost true, ?_, rfl, rfl, ?_⟩
  · rw [cli_safe_read, if_pos hvio, hrun]
  · rw [lost, set_mysql_error, if_pos (Or.inl rfl)]

theorem stream_bytewise (bytes : List UInt8) (departures : List Departure)
    (written : List UInt8) :
    (Vio.mk none (bytes.map (.bytes · [])) departures written).stream = bytes := by
  rw [Vio.stream, List.flatMap_map]
  exact List.flatMap_singleton' bytes

/-- The frame of a packet of zeros. -/
def zerosFrame : List UInt8 := NET.frames 0 (List.replicate 4096 0)

/-- A block with this frame, which is not compressed. -/
def zerosBlock : List UInt8 := NET.header true 0 zerosFrame.length 0 ++ zerosFrame ++ []

/-- A line with compression and small buffers, on which the block arrives. -/
def smallLine : Line where
  net := { NET.my_net_init 4096 4096 ⟨none, zerosBlock.map (.bytes · []), [], []⟩ with
    compress := true }
  readable := ⟨fun _ => ⟨Nat.le_refl _, Nat.zero_le _⟩, fun hc => by cases hc⟩

theorem oversized_smallLine : smallLine.net.Oversized .stored := by
  have hblocks : NET.Blocks .stored 0 (zerosFrame ++ []) zerosBlock 1 :=
    .cons rfl (by decide +kernel) (Nat.zero_le _) (.nil 1)
  have hstream : smallLine.net.vio.stream = zerosBlock ++ [] :=
    (stream_bytewise _ [] []).trans (List.append_nil _).symm
  have hleft : smallLine.net.left ++ (zerosFrame ++ []) = zerosFrame ++ [] := by
    rw [show smallLine.net.left = [] from slice_zero _ _, List.nil_append]
  exact .blocks rfl (NET.unframes_frames 0 (List.replicate 4096 0)) hblocks hstream hleft
    (by decide +kernel)

theorem cli_safe_read_large_zeros :
    ∃ c', cli_safe_read (line Zlib.lawful_stored fun _ => 0) (.rested smallLine) =
      (.error .failed, c') ∧ c'.vio = false ∧ c'.fields = none ∧
      c'.last_errno = CR_NET_PACKET_TOO_LARGE := by
  have hcalm : smallLine.net.vio.Calm := by
    rintro a ha
    obtain ⟨b, -, rfl⟩ := List.mem_map.mp ha
    exact .inr (List.cons_ne_nil b [])
  exact cli_safe_read_large Zlib.lawful_stored _ rfl (Nat.dvd_refl _) (Nat.le_refl _) hcalm
    oversized_smallLine

end Client

end MGMDB
