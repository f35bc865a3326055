import MysqlRs.Framing.Compression
import MysqlRs.Protocol.Completes
import MysqlRs.Session.Operations

namespace MySQL

namespace Server

-- What a server makes of the packets that follow its request for a file: the contents up to an empty
-- packet, and what comes after that.
def receiveFile : List Bytes → Option (Bytes × List Bytes)
  | []            => none
  | [] :: rest    => some ([], rest)
  | chunk :: rest => (receiveFile rest).map fun (file, rest) => (chunk ++ file, rest)

theorem receiveFile_cons {chunk file : Bytes} {packets rest : List Bytes} (hc : chunk ≠ [])
    (h : receiveFile packets = some (file, rest)) :
    receiveFile (chunk :: packets) = some (chunk ++ file, rest) := by
  cases chunk
  case nil  => exact absurd rfl hc
  case cons => simp [receiveFile, h]

end Server

namespace PacketStream

variable [Zlib]

-- Packets that are written are queued as a whole, behind what is there already.
def Queues (x : Proc Error PacketStream Unit) : Prop :=
  ∀ s s', x s = .ok () s' → ∃ queue, s'.sendQueue = s.sendQueue ++ queue ∧ queue.flatten ≠ []

theorem compressedPacket_queues (chunk : Bytes) : Queues (compressedPacket chunk) := by
  intro s s' h
  have ⟨body, s₁, hb, h₁⟩ := Outcome.bind_eq_ok.mp h
  obtain rfl : s₁ = s := Proc.Keeps.ofExcept (f := id) _ hb
  generalize (if chunk.length ≤ body.length then (chunk, 0) else (body, chunk.length)) = sent at h₁
  dsimp only at h₁
  split at h₁
  case isTrue  => exact nomatch h₁
  case isFalse =>
    obtain ⟨_, rfl⟩ := Outcome.ok.inj h₁
    exact ⟨_, rfl, by simp [writeInt3]⟩

theorem compressedPackets_queues {plain : Bytes} (h : plain ≠ []) : Queues (compressedPackets plain) := by
  fun_induction compressedPackets plain
  case case1         => exact absurd rfl h
  case case2 plain hd ih =>
    intro s s' hs
    obtain ⟨_, s₁, h₁, h₂⟩ := Outcome.bind_eq_ok.mp hs
    obtain ⟨q₁, hq₁, hn⟩ := compressedPacket_queues _ s s₁ h₁
    by_cases hr : plain.drop maxPacketLen = []
    case pos =>
      rw [hr, compressedPackets, dif_pos rfl] at h₂
      obtain ⟨_, rfl⟩ := Outcome.ok.inj h₂
      exact ⟨q₁, hq₁, hn⟩
    case neg =>
      obtain ⟨q₂, hq₂, _⟩ := ih hr s₁ s' h₂
      exact ⟨q₁ ++ q₂, by rw [hq₂, hq₁, List.append_assoc], by simp [hn]⟩

theorem writePacket_queues (p : Bytes) : Queues (writePacket p) := by
  intro s s' h
  have hp : (plainPackets s.nextSeqId p).1 ≠ [] := by
    rw [← List.length_pos_iff, plainPackets_length]
    exact frameLen_pos p
  simp only [writePacket, Proc.bind_apply, Proc.get_apply, Outcome.bind_ok] at h
  split at h
  case isTrue =>
    rw [writeCompressedPacket] at h
    obtain ⟨data, s₁, hb, h₁⟩ := Outcome.bind_eq_ok.mp h
    obtain ⟨rfl, rfl⟩ := Outcome.ok.inj hb
    exact compressedPackets_queues hp { s with nextSeqId := (plainPackets s.nextSeqId p).2 } s' h₁
  case isFalse =>
    obtain ⟨data, s₁, hb, h₁⟩ := Outcome.bind_eq_ok.mp h
    obtain ⟨rfl, rfl⟩ := Outcome.ok.inj hb
    obtain ⟨_, rfl⟩ := Outcome.ok.inj h₁
    exact ⟨_, rfl, by simpa using hp⟩

theorem writePackets_queues {ps : List Bytes} (h : ps ≠ []) : Queues (writePackets ps) := by
  induction ps
  case nil          => exact absurd rfl h
  case cons p ps ih =>
    intro s s' hs
    have ⟨_, s₁, h₁, h₂⟩ := Outcome.bind_eq_ok.mp hs
    have ⟨q₁, hq₁, hn⟩ := writePacket_queues p s s₁ h₁
    by_cases hr : ps = []
    case pos =>
      subst hr
      obtain ⟨_, rfl⟩ := Outcome.ok.inj h₂
      exact ⟨q₁, hq₁, hn⟩
    case neg =>
      have ⟨q₂, hq₂, _⟩ := ih hr s₁ s' h₂
      exact ⟨q₁ ++ q₂, by rw [hq₂, hq₁, List.append_assoc], by simp [hn]⟩

end PacketStream

namespace Connection

theorem onStream_closed {α : Type} (x : Proc Error PacketStream α) : (onStream x).Leaves (·.closed) :=
  .zoom x fun _ _ => rfl

variable [Libraries]

omit [Libraries] in
theorem steady_closed : Steady (·.closed) where
  read           := onStream_closed _
  answer _ _ _ _ := rfl

-- A command is only sent on a connection that is open.
theorem executeCommand_closed {command : UInt8} {sql : Bytes} {c c' : Connection}
    (h : executeCommand command sql c = .ok () c') : c'.closed = false := by
  have write : (writeCommand command sql).Leaves (·.closed) :=
    .bind (.modify fun _ => rfl) fun _ => onStream_closed _
  have hk : (drainPending >>= fun _ => writeCommand command sql).Keeps (·.closed) :=
    (Proc.Leaves.bind steady_closed.drainPending fun _ => write).keeps
  simp only [executeCommand, Proc.bind_apply, Proc.get_apply, Outcome.bind_ok] at h
  split at h
  case isTrue => cases h
  case isFalse hc => exact (hk h).trans (Bool.eq_false_iff.mpr hc)

end Connection

namespace Tokio.Connection

open ClientError Server PacketStream

-- The pieces in which a file is sent, and the empty packet that ends it.
def fileChunks (data : Bytes) : List Bytes :=
  chunks CHUNK_SIZE data

def filePackets (data : Bytes) : List Bytes :=
  fileChunks data ++ [[]]

-- The server reads the file that is sent, and nothing else.
theorem receiveFile_filePackets (data : Bytes) : receiveFile (filePackets data) = some (data, []) := by
  rw [filePackets, fileChunks]
  fun_induction chunks CHUNK_SIZE data
  case case1 data h =>
    rw [h.resolve_left (by decide)]
    rfl
  case case2 data hd ih =>
    have hc : data.take CHUNK_SIZE ≠ [] := by simpa [not_or] using hd
    rw [List.cons_append, receiveFile_cons hc ih, List.take_append_drop]

variable [Libraries] {c c' : Connection} {p : MysqlPacket}

def onPackets {α : Type} (x : Proc Error PacketStream α) : Proc Error Connection α :=
  onInner (MySQL.Connection.onStream x)

omit [Libraries] in
theorem onPackets_bind {α β : Type} (x : Proc Error PacketStream α) (f : α → Proc Error PacketStream β) :
    onPackets (x >>= f) = (onPackets x >>= fun a => onPackets (f a)) := by
  funext c
  simp only [onPackets, onInner_apply, MySQL.Connection.onStream_apply, Proc.bind_apply]
  cases x c.inner.packetStream <;> rfl

theorem writeChunks_eq (data : Bytes) :
    writeChunks data = onPackets (PacketStream.writePackets (fileChunks data)) := by
  fun_induction writeChunks data
  case case1 =>
    rw [fileChunks, chunks_nil]
    rfl
  case case2 data hd ih =>
    rw [fileChunks, chunks_of_ne_nil (by decide) hd, PacketStream.writePackets, onPackets_bind, ih]
    rfl

-- The file is written, and then the empty packet.
theorem writeFile_eq (data : Bytes) :
    onPackets (PacketStream.writePackets (filePackets data)) =
      (writeChunks data >>= fun _ => onInner (MySQL.Connection.writePacket [])) := by
  have happ : PacketStream.writePackets (filePackets data) =
      (PacketStream.writePackets (fileChunks data) >>= fun _ => PacketStream.writePacket []) := by
    funext s
    rw [filePackets, PacketStream.writePackets_append, Proc.bind_apply]
    congr 1
    funext _ s
    cases hw : PacketStream.writePacket [] s <;> simp [PacketStream.writePackets, hw]
  rw [happ, onPackets_bind, ← writeChunks_eq]
  rfl

-- When the queue has been written and flushed.
def flushed (c : Connection) : Connection :=
  let st := c.stream.getD ⟨[], [], [], none⟩
  (c.setSendQueue []).setSocket {
    st with
    incoming := st.incoming ++ st.answers.headD []
    answers  := st.answers.tail
    written  := st.written ++ c.inner.packetStream.sendQueue.flatten
  }

omit [Libraries] in
theorem flushed_written (c : Connection) :
    c.flushed.written = c.written ++ c.inner.packetStream.sendQueue.flatten := by
  cases hs : c.stream <;> simp [flushed, written, hs]

omit [Libraries] in
theorem written_setInner (c : Connection) (i : MySQL.Connection) : (c.setInner i).written = c.written :=
  rfl

omit [Libraries] in
theorem pumpWrite_ok {st : ConnectionStream} (hs : c.stream = some st) (hb : st.broken = none) :
    pumpWrite c = .ok () c.flushed := by
  have hq : c.setSendQueue c.inner.packetStream.sendQueue = c := rfl
  have hw := writeQueue_ok hs hb c.inner.packetStream.sendQueue
  rw [hq] at hw
  simp [pumpWrite, hw, flush, hb, flushed, hs]
  rfl

-- A stream that is broken is noticed, and the connection is closed.
omit [Libraries] in
theorem pumpWrite_broken {st : ConnectionStream} {e : String} (hs : c.stream = some st)
    (hb : st.broken = some e) : ∃ c', pumpWrite c = .error (goneAway e) c' ∧ c'.inner.closed = true := by
  have hf (c : Connection) (hs : c.stream = some st) : flush c = .error (goneAway e) (c.setInner c.inner.forceClose) := by
    simp [flush, hs, hb]
  cases hq : c.inner.packetStream.sendQueue
  case nil => exact ⟨_, by simp [pumpWrite, hq, writeQueue, hf c hs]; rfl, rfl⟩
  case cons data queue =>
    refine ⟨((c.setSendQueue queue).setInner (c.setSendQueue queue).inner.forceClose), ?_, rfl⟩
    simp [pumpWrite, hq, writeQueue, writeAll, hs, hb]

-- What says whether something can be sent, and what has been.
def footing (c : Connection) : Bool × Bool × Bytes :=
  (c.inner.closed, c.stream.isSome, c.written)

-- Reading only changes that where the connection is lost.
theorem pumpRead_footing (c : Connection) :
    (∃ e c', pumpRead c = .error e c' ∧ c'.inner.closed = true) ∨
      (pumpRead c).state.footing = c.footing := by
  have feed {data : Bytes} {c : Connection} {st : ConnectionStream} {rest : List ReadEvent}
      (hs : c.stream = some st) {o : Outcome Error MySQL.Connection Nat}
      (h : c.inner.feedBytes data = o) :
      ((c.setSocket { st with incoming := rest }).setInner o.state).footing = c.footing := by
    have hc : o.state.closed = c.inner.closed :=
      h ▸ MySQL.Connection.onStream_closed _ c.inner
    simp [footing, hc, hs, written]
  fun_induction pumpRead c
  case case1 | case3 | case4 => exact .inl ⟨_, _, rfl, rfl⟩
  case case2 => exact .inr rfl
  case case5 hs _ _ _ _ _ _ hf _ _    => exact .inr (feed hs hf)
  case case6 hs _ _ _ _ _ _ hf _ _ ih => exact ih.imp_right fun h => h.trans (feed hs hf)
  case case7 hs _ _ _ _ _ _ hf        => exact .inr (feed hs hf)
  case case8 hs _ _ _ _ _ hf          => exact .inr (feed hs hf)

theorem readPacket_footing (c : Connection) :
    (∃ e c', readPacket c = .error e c' ∧ c'.inner.closed = true) ∨
      (readPacket c).state.footing = c.footing := by
  have read {c : Connection} {o : Outcome Error MySQL.Connection MysqlPacket}
      (h : c.inner.readPacket = o) : (c.setInner o.state).footing = c.footing := by
    have hc : o.state.closed = c.inner.closed := h ▸ MySQL.Connection.onStream_closed _ c.inner
    rw [footing, setInner_inner, hc]
    rfl
  fun_induction readPacket c
  case case1 hi    => exact .inr (read hi)
  case case2 c _ _ c₁ hp ih =>
    rcases pumpRead_footing c with ⟨_, _, he, _⟩ | hf
    · cases hp.symm.trans he
    · rw [hp] at hf
      exact ih.imp_right fun h => h.trans hf
  case case3 c _ _ _ _ hp =>
    rcases pumpRead_footing c with ⟨_, _, he, hc⟩ | hf
    · obtain ⟨rfl, rfl⟩ := Outcome.error.inj (hp.symm.trans he)
      exact .inl ⟨_, _, rfl, hc⟩
    · rw [hp] at hf
      exact .inr hf
  case case4 c _ _ _ hp =>
    rcases pumpRead_footing c with ⟨_, _, he, _⟩ | hf
    · cases hp.symm.trans he
    · rw [hp] at hf
      exact .inr hf
  case case5 hi => exact .inr (read hi)
  case case6 hi => exact .inr (read hi)

theorem readPacket_keeps : readPacket.Keeps footing := by
  intro c p c' h
  rcases readPacket_footing c with ⟨_, _, he, _⟩ | hf
  · exact nomatch h.symm.trans he
  · rwa [h] at hf

omit [Libraries] in
theorem pumpWrite_none (h : c.stream = none) : ∃ c', pumpWrite c = .error noStream c' := by
  cases hq : c.inner.packetStream.sendQueue
  case nil  => exact ⟨c, by simp [pumpWrite, hq, writeQueue, flush, h]⟩
  case cons => exact ⟨_, by simp [pumpWrite, hq, writeQueue, writeAll, h]; rfl⟩

-- A command is sent on a connection that is open and has a stream that can be written to.
theorem send_ok {command : UInt8} {sql : Bytes} (h : send command sql c = .ok () c') :
    ∃ i st, MySQL.Connection.executeCommand command sql c.inner = .ok () i ∧ c.stream = some st ∧ st.broken = none ∧
      c' = (c.setInner i).flushed := by
  have ⟨_, c₁, hc, hw⟩ := Outcome.bind_eq_ok.mp h
  rw [onInner_apply] at hc
  cases hx : MySQL.Connection.executeCommand command sql c.inner
  case ok i =>
    rw [hx] at hc
    obtain ⟨_, rfl⟩ := Outcome.ok.inj hc
    cases hs : (c.setInner i).stream
    case none =>
      have ⟨_, he⟩ := pumpWrite_none hs
      exact nomatch he.symm.trans hw
    case some st =>
      cases hb : st.broken
      case none   => exact ⟨i, st, rfl, hs, hb, (Outcome.ok.inj (hw.symm.trans (pumpWrite_ok hs hb))).right⟩
      case some e =>
        have ⟨_, he, _⟩ := pumpWrite_broken hs hb
        exact nomatch he.symm.trans hw
  all_goals
    rw [hx] at hc
    exact nomatch hc

theorem send_footing {command : UInt8} {sql : Bytes} (h : send command sql c = .ok () c') :
    c'.inner.closed = false ∧ c'.stream.isSome = true := by
  have ⟨i, st, hx, _, _, hc⟩ := send_ok h
  have hcl := MySQL.Connection.executeCommand_closed hx
  rw [hc]
  exact ⟨hcl, rfl⟩

-- The path of the file that is asked for.
def requestedPath (p : MysqlPacket) : Text :=
  expandUser (Text.fromUtf8Lossy (p.data.drop 1))

-- What the client can send: nothing if it must not, or if there is no such file.
def offer (c : Connection) (p : MysqlPacket) : Option Bytes :=
  if c.inner.options.localInfile then (Files.read (requestedPath p)).toOption else none

-- The packets have been queued, written and flushed.
def Sent (packets : List Bytes) (c c' : Connection) : Prop :=
  ∃ s, PacketStream.writePackets packets c.inner.packetStream = .ok () s ∧
    c' = (c.setInner (c.inner.setStream s)).flushed

-- The server answers by an OK or an ERR packet, or else the connection is lost.
inductive Answered (c : Connection) : Prop
  | ok {p c' d} :
    readPacket c = .ok p c' → OkPacketWrapper.fromPacket.run' p = .ok d → Answered c
  | err {p : MysqlPacket} {c'} :
    p.isErrorPacket = true → readPacket c = .error p.raiseForError c' → Answered c
  | lost {e c'} : readPacket c = .error e c' → c'.inner.closed = true → Answered c

-- The OK or ERR packet has been consumed.
inductive Concluded (c : Connection) : Outcome Error Connection Int64 → Prop
  | ok {p c' d r} :
    readPacket c = .ok p c' → OkPacketWrapper.fromPacket.run' p = .ok d → r.isDone = true →
    r.serverStatus = some d.serverStatus →
    Concluded c (.ok r.affectedRows (c'.setInner (c'.inner.setResult r)))
  | err {p : MysqlPacket} {c'} :
    p.isErrorPacket = true → readPacket c = .error p.raiseForError c' →
    Concluded c (.error p.raiseForError c')

-- The connection is closed, or the server has been sent the file and has had the last word.
def InStep (c : Connection) (p : MysqlPacket) (outcome : Outcome Error Connection Int64) : Prop :=
  outcome.state.inner.closed = true ∨
    ∃ packets c', receiveFile packets = some ((c.offer p).getD [], []) ∧ Sent packets c c' ∧
      Concluded c' outcome

section Sending

variable (hl : p.isLoadLocalPacket = true)

include hl

theorem sendLoadLocalFile_none (h : c.offer p = none) : ∃ e, sendLoadLocalFile p c = .error e c := by
  rw [offer] at h
  simp only [sendLoadLocalFile, Proc.bind_apply, Proc.get_apply, Outcome.bind_ok]
  cases ho : c.inner.options.localInfile
  case false => exact ⟨_, rfl⟩
  case true =>
    rw [ho, if_pos rfl, requestedPath] at h
    simp only [LoadLocalPacketWrapper.fromPacket, hl, Bool.not_true, Bool.false_eq_true, if_false,
      Proc.ofExcept_ok, Proc.bind_apply, Proc.pure_apply, Outcome.bind_ok]
    cases hr : Files.read (expandUser (Text.fromUtf8Lossy (p.data.drop 1)))
    case ok data =>
      rw [hr] at h
      exact nomatch h
    case error e => exact ⟨_, rfl⟩

theorem sendLoadLocalFile_some {data : Bytes} (h : c.offer p = some data) :
    sendLoadLocalFile p c =
      (onPackets (PacketStream.writePackets (filePackets data)) c).bind fun _ => pumpWrite := by
  rw [offer] at h
  cases ho : c.inner.options.localInfile
  case false =>
    rw [ho] at h
    exact nomatch h
  case true =>
    rw [ho, if_pos rfl, requestedPath] at h
    cases hr : Files.read (expandUser (Text.fromUtf8Lossy (p.data.drop 1)))
    case error e =>
      rw [hr] at h
      exact nomatch h
    case ok data' =>
      rw [hr] at h
      obtain rfl := Option.some.inj h
      have hw := writeFile_eq data'
      simp only [sendLoadLocalFile, Proc.bind_apply, Proc.get_apply, Outcome.bind_ok, ho, hw,
        LoadLocalPacketWrapper.fromPacket, hl, Bool.not_true, Bool.false_eq_true, if_false, hr,
        Proc.ofExcept_ok, Proc.pure_apply, Outcome.bind_assoc]
      rfl

end Sending

theorem not_inStep {o : Outcome Error Connection Int64} (hc : c.inner.closed = false)
    (hf : o.state.footing = c.footing) (ho : ∀ n c', o ≠ .ok n c') : ¬InStep c p o := by
  have hcl : o.state.inner.closed = false := (congrArg Prod.fst hf).trans hc
  rintro (h | ⟨packets, c', hr, ⟨s, hw, rfl⟩, hx⟩)
  · exact nomatch hcl.symm.trans h
  · cases hx
    case ok => exact ho _ _ rfl
    case err q c₂ hp hq =>
      rcases readPacket_footing (c.setInner (c.inner.setStream s)).flushed with ⟨_, _, he, hx⟩ | hx
      · obtain ⟨_, rfl⟩ := Outcome.error.inj (hq.symm.trans he)
        exact nomatch hcl.symm.trans hx
      · rw [hq] at hx
        have hn : packets ≠ [] := fun hn => nomatch (hn ▸ hr)
        have ⟨queue, hq, hne⟩ := PacketStream.writePackets_queues hn _ _ hw
        have hwr : c.written = _ := congrArg (·.2.2) (hf.symm.trans hx)
        rw [footing, flushed_written, setInner_inner, MySQL.Connection.setStream_packetStream, hq] at hwr
        have hlen := congrArg List.length hwr
        have := List.length_pos_iff.mpr hne
        simp only [List.flatten_append, List.length_append, written_setInner] at hlen
        omega

theorem feedStep_ok {q : MysqlPacket} {d : OkPacketWrapper} (u : Bool) (conn : MySQL.Connection)
    (hd : OkPacketWrapper.fromPacket.run' q = .ok d) :
    ∃ r, MySQLResult.feedStep q conn { unbufferedActive := u } = .ok (some r.affectedRows) r ∧
      r.isDone = true ∧ r.serverStatus = some d.serverStatus ∧ r.hasNext = d.hasNext := by
  have hq := MySQLResult.isOkPacket_of_run hd
  refine ⟨{
    affectedRows := (d.affectedRows.getD 0).toInt64
    insertId := d.insertId
    serverStatus := some d.serverStatus
    warningCount := d.warningCount
    message := some d.message
    hasNext := d.hasNext
    unbufferedActive := u
    readState := .done
  }, ?_, rfl, rfl, rfl⟩
  simp [MySQLResult.feedStep, MySQLResult.feedPacket, MySQLResult.feedInitial, hq,
    MySQLResult.run_eq_pure hd]

section Query

variable {sql : Text} {u : Bool} {c₀ c₁ : Connection}
  (hs : (Operation.query sql u).start c = .ok () c₀) (hp : readPacket c₀ = .ok p c₁)
  (hl : p.isLoadLocalPacket = true)

include hs hp hl

theorem query_loadLocal :
    query sql u c = (sendLoadLocalFile p c₁).bind fun _ c =>
      (packets.feedLocal feedStep { unbufferedActive := u } c).bind
        fun (n, r) c => .ok n (c.setInner (c.inner.setResult r)) := by
  have hq : query sql u c = ((Operation.query sql u).start c).bind fun _ => readQueryResult u := by
    rw [query_eq, Operation.start, Proc.bind_apply, Outcome.bind_assoc]
    rfl
  rw [hq, hs, Outcome.bind_ok, readQueryResult_loadLocal hp hl]

omit hl in
theorem query_footing : c₁.inner.closed = false ∧ c₁.stream.isSome = true := by
  have ⟨_, _, _, hsend⟩ := Outcome.bind_eq_ok.mp hs
  have ⟨hc, hst⟩ := send_footing hsend
  have hf := readPacket_keeps hp
  exact ⟨(congrArg (·.1) hf).trans hc, (congrArg (·.2.1) hf).trans hst⟩

-- Client and server stay in step exactly if there is a file that can be sent.
theorem query_inStep_iff
    (hf : ∀ data c₂, c₁.offer p = some data → Sent (filePackets data) c₁ c₂ → c₂.Answered) :
    InStep c₁ p (query sql u c) ↔
      ∃ data c₂, c₁.offer p = some data ∧ Sent (filePackets data) c₁ c₂ := by
  have ⟨hc, hst⟩ := query_footing hs hp
  rw [query_loadLocal hs hp hl]
  constructor
  case mp =>
    intro h
    by_contra hn
    cases ho : c₁.offer p
    case none =>
      have ⟨e, he⟩ := sendLoadLocalFile_none hl ho
      rw [he] at h
      exact not_inStep hc rfl (by simp) h
    case some data =>
      rw [sendLoadLocalFile_some hl ho] at h
      cases hw : PacketStream.writePackets (filePackets data) c₁.inner.packetStream
      case ok s => exact hn ⟨data, _, ho, s, hw, rfl⟩
      all_goals
        rw [onPackets, onInner_apply, MySQL.Connection.onStream_apply, hw] at h
        exact not_inStep hc rfl (by simp) h
  case mpr =>
    rintro ⟨data, _, ho, s, hw, rfl⟩
    have hx : (onPackets (PacketStream.writePackets (filePackets data)) c₁) =
        .ok () (c₁.setInner (c₁.inner.setStream s)) := by
      simp [onPackets, hw]
    rw [sendLoadLocalFile_some hl ho, hx, Outcome.bind_ok]
    have ⟨st, hst⟩ := Option.isSome_iff_exists.mp hst
    have hs' : (c₁.setInner (c₁.inner.setStream s)).stream = some st := hst
    cases hb : st.broken
    case some e =>
      have ⟨c', he, hcl⟩ := pumpWrite_broken hs' hb
      rw [he]
      exact .inl hcl
    case none =>
      rw [pumpWrite_ok hs' hb, Outcome.bind_ok]
      have hsent : Sent (filePackets data) c₁ (c₁.setInner (c₁.inner.setStream s)).flushed :=
        ⟨s, hw, rfl⟩
      have hr : receiveFile (filePackets data) = some ((c₁.offer p).getD [], []) := by
        rw [ho, receiveFile_filePackets]
        rfl
      cases hf data _ ho hsent
      case ok q c₃ d hq hd =>
        have ⟨r, hr', hdone, hst', _⟩ := feedStep_ok u c₃.inner hd
        have hf' : feedStep q c₃ { unbufferedActive := u } = .ok (some r.affectedRows) r := hr'
        rw [packets.feedLocal_ok hq, hf']
        exact .inr ⟨_, _, hr, hsent, .ok hq hd hdone hst'⟩
      case err q c₃ hq he =>
        rw [Source.feedLocal, packets.feed_next_error he]
        exact .inr ⟨_, _, hr, hsent, .err hq he⟩
      case lost e c₃ he hcl =>
        rw [Source.feedLocal, packets.feed_next_error he]
        exact .inl hcl

end Query

-- A packet that comes in one read.
theorem readPacket_whole {st : ConnectionStream} {q : Bytes} {rest : List ReadEvent}
    (hs : c.stream = some st)
    (hi : st.incoming = .ok (framed c.inner.packetStream.nextSeqId [q]) :: rest)
    (h : Idle c.inner.packetStream) (hm : q.length ≤ c.inner.packetStream.maxAllowedPacket.toNat)
    (hq : ¬(MysqlPacket.new q).isErrorPacket) :
    readPacket c = .ok (.new q) ((c.setSocket { st with incoming := rest }).setInner
      (c.inner.setStream { c.inner.packetStream with
        nextSeqId := seqAfter c.inner.packetStream.nextSeqId [q] })) := by
  have hd : framed c.inner.packetStream.nextSeqId [q] ≠ [] := fun hd => nomatch framed_eq_nil hd
  have hf : c.inner.feedBytes (framed c.inner.packetStream.nextSeqId [q]) = .ok 1
      (c.inner.setStream { c.inner.packetStream with
        recvQueue := [.new q], nextSeqId := seqAfter c.inner.packetStream.nextSeqId [q] }) := by
    have hb : c.inner.packetStream.recvBuffer = [] := h.buffer
    have hr : c.inner.packetStream.recvQueue = [] := h.queue
    have hp := parsePlainPackets_payload (s := { c.inner.packetStream with recvBuffer := [] }) 0 q [] hm
    rw [if_neg hq, parsePlainPackets_stuck _ (.nil _)] at hp
    rw [MySQL.Connection.feedBytes, MySQL.Connection.onStream_apply, feedBytes_plain h.plain h.inflated,
      hb, List.nil_append, framed, framed, hp]
    simp [hr, hb, seqAfter]
  rw [readPacket_of_empty h.queue, pumpRead_data hs hi hd, hf]
  have hr : c.inner.packetStream.recvQueue = [] := h.queue
  refine (readPacket_of_queue rfl).trans ?_
  simp [hr, MySQL.Connection.setStream]
  rfl

end Tokio.Connection

namespace Tokio

open Tokio.Connection Server PacketStream Command

section Examples

-- A server that asks for a file, and answers when it has had it.
def loadData : Text := "LOAD DATA".toList

def fileRequest : Bytes := [0xFB, 102]

def requestSeq : UInt8 := answerSeq COM_QUERY loadData.asBytes

def fileAnswers (data : Bytes) : List (List ReadEvent) :=
  [[.ok (framed requestSeq [fileRequest])],
    [.ok (framed (seqAfter (seqAfter requestSeq [fileRequest]) (filePackets data)) [done.payload])]]

def loading (localInfile : Bool) : Connection where
  inner := .fresh { localInfile } ⟨45, "utf8mb4", true⟩
  stream := some ⟨[], fileAnswers [1, 2, 3], [], none⟩
  transactionDirty := false

theorem loading_ready (localInfile : Bool) : (loading localInfile).Ready where
  open_    := rfl
  sent     := rfl
  stream   := ⟨_, rfl, rfl⟩
  idle     := ⟨rfl, rfl, rfl, rfl⟩
  incoming := rfl
  result   := fun _ h => nomatch h

-- When the request has been read.
def requested (localInfile : Bool) : Connection :=
  let c := (loading localInfile).afterCommand COM_QUERY loadData.asBytes
  (c.setSocket { c.stream.getD ⟨[], [], [], none⟩ with incoming := [] }).setInner
    (c.inner.setStream { c.inner.packetStream with nextSeqId := seqAfter requestSeq [fileRequest] })

variable [Libraries]

theorem loading_requested (localInfile : Bool) :
    (Operation.query loadData false).start (loading localInfile) =
        .ok () ((loading localInfile).afterCommand COM_QUERY loadData.asBytes) ∧
      readPacket ((loading localInfile).afterCommand COM_QUERY loadData.asBytes) =
        .ok (.new fileRequest) (requested localInfile) := by
  refine ⟨?_, readPacket_whole rfl rfl ⟨rfl, rfl, rfl, rfl⟩ ?_ ?_⟩
  · rw [Operation.start, Proc.bind_apply, finishUnbufferedQuery_of_inactive rfl]
    exact (loading_ready localInfile).send _ _
  · change fileRequest.length ≤ (16 * 1024 * 1024 : UInt64).toNat
    decide
  · decide

end Examples

section Examples

open Libraries

-- There is one file.
@[reducible]
def oneFile : Libraries :=
  { utf8Only with read := fun _ => .ok [1, 2, 3] }

theorem load_inStep :
    @InStep oneFile (requested true) (.new fileRequest) (@query oneFile loadData false (loading true)) := by
  let := oneFile
  have ⟨hs, hp⟩ := loading_requested true
  refine (query_inStep_iff hs hp rfl fun data c₂ ho hsent => ?_).mpr ?_
  all_goals
    have hw := writePackets_plain (filePackets [1, 2, 3]) (s := (requested true).inner.packetStream) rfl
  case refine_1 =>
    obtain rfl : [1, 2, 3] = data := Option.some.inj ho
    obtain ⟨s, hw', rfl⟩ := hsent
    obtain ⟨_, rfl⟩ := Outcome.ok.inj (hw.symm.trans hw')
    have hd := (MySQLResult.run_eq_ok.mp (congrFun (done.run (by decide)) ())).left
    refine .ok (readPacket_whole rfl rfl ⟨rfl, rfl, rfl, rfl⟩ ?_ done.not_error) hd
    change done.payload.length ≤ (16 * 1024 * 1024 : UInt64).toNat
    decide
  case refine_2 => exact ⟨[1, 2, 3], _, rfl, _, hw, rfl⟩

-- The client must not send files.
theorem load_rejected :
    @Operation.start utf8Only (.query loadData false) (loading false) =
        .ok () ((loading false).afterCommand COM_QUERY loadData.asBytes) ∧
      @readPacket utf8Only ((loading false).afterCommand COM_QUERY loadData.asBytes) =
        .ok (.new fileRequest) (requested false) ∧
      ¬@InStep utf8Only (requested false) (.new fileRequest)
        (@query utf8Only loadData false (loading false)) := by
  let := utf8Only
  have ⟨hs, hp⟩ := loading_requested false
  refine ⟨hs, hp, ?_⟩
  have ⟨e, he⟩ := sendLoadLocalFile_none (c := requested false) (p := .new fileRequest) rfl rfl
  rw [query_loadLocal hs hp rfl, he]
  exact not_inStep rfl rfl (by simp)

end Examples

end Tokio
end MySQL
