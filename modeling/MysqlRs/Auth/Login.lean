import MysqlRs.Auth.Admission
import MysqlRs.Auth.Grouping
import MysqlRs.Session.Setup

namespace MySQL

open Client PacketStream

namespace PacketStream

variable [Zlib] {s : PacketStream} {p data more : Bytes}

-- The stream when a packet has come in on its own.
def took (s : PacketStream) (p : Bytes) : PacketStream :=
  { s with recvBuffer := [], recvQueue := [.new p], nextSeqId := (plainPackets s.nextSeqId p).2 }

omit [Zlib] in
theorem arrived_single (p : Bytes) (n : Nat) : arrived [p] n = 0 ∨ arrived [p] n = 1 := by
  rw [arrived]
  split_ifs
  · exact .inr rfl
  · exact .inl rfl

omit [Zlib] in
theorem Expecting.missing (h : Expecting s [p] more) : more ≠ [] := by
  rintro rfl
  have hf := h.front
  have hl := congrArg List.length h.bytes
  have := firstFragmentLen_le p
  rw [Front] at hf
  simp only [List.append_nil, framed_length, framedLen, List.map_singleton, List.sum_singleton] at hl
  omega

-- A read brings a part of the packet, or all that is missing of it.
theorem Expecting.feed_single (h : Expecting s [p] (data ++ more)) (hq : s.recvQueue = [])
    (hc : CleanCut [p] (s.recvBuffer.length + data.length)) (hp : ¬IsError p) :
    (feedBytes data s = .ok 0 { s with recvBuffer := s.recvBuffer ++ data } ∧
      Expecting { s with recvBuffer := s.recvBuffer ++ data } [p] more) ∨
    (feedBytes data s = .ok 1 (s.took p) ∧ more = []) := by
  have hb := h.bytes
  rw [← List.append_assoc] at hb
  rw [← List.length_append] at hc
  have he : ∀ q ∈ [p].take (arrived [p] (s.recvBuffer ++ data).length), ¬(MysqlPacket.new q).isErrorPacket :=
    fun q hq => List.mem_singleton.mp (List.mem_of_mem_take hq) ▸ hp
  have ⟨b, h₁, h₂, h₃⟩ := parsePlainPackets_clean (s := { s with recvBuffer := [] }) 0 [p] hb h.fits hc he
  rw [feedBytes_plain h.plain h.inflated, h₃, Nat.zero_add, hq]
  obtain ha | ha := arrived_single p (s.recvBuffer ++ data).length
  · rw [ha] at h₁ h₂ ⊢
    obtain rfl : b = s.recvBuffer ++ data := List.append_cancel_right (h₁.trans hb.symm)
    refine .inl ⟨?_, h.plain, h.inflated, hb, h.fits, h₂⟩
    obtain ⟨_, _, _, _, _, _, _, _⟩ := s
    obtain rfl := hq
    rfl
  · rw [ha] at h₁ ⊢
    obtain ⟨rfl, rfl⟩ := List.append_eq_nil_iff.mp h₁
    exact .inr ⟨rfl, rfl⟩

-- An error packet is raised as soon as it is complete, and nothing of it stays.
theorem Expecting.feed_refused (h : Expecting s [p] (data ++ more))
    (hc : CleanCut [p] (s.recvBuffer.length + data.length)) (hp : IsError p) :
    (feedBytes data s = .ok 0 { s with recvBuffer := s.recvBuffer ++ data } ∧
      Expecting { s with recvBuffer := s.recvBuffer ++ data } [p] more) ∨
    (∃ s', feedBytes data s = .error (Error.raiseMysqlException p) s' ∧ s'.unread = ([], [], s.recvQueue)) ∧
      more = [] := by
  obtain ha | ha := arrived_single p (s.recvBuffer.length + data.length)
  · have hb := h.bytes
    rw [← List.append_assoc] at hb
    rw [← List.length_append] at hc ha
    have ⟨b, h₁, h₂, h₃⟩ := parsePlainPackets_clean (s := { s with recvBuffer := [] }) 0 [p] hb h.fits hc
      (by rw [ha]; exact List.forall_mem_nil _)
    rw [ha] at h₁ h₂ h₃
    obtain rfl : b = s.recvBuffer ++ data := List.append_cancel_right (h₁.trans hb.symm)
    refine .inl ⟨?_, h.plain, h.inflated, hb, h.fits, h₂⟩
    rw [feedBytes_plain h.plain h.inflated, h₃, List.take_zero, List.map_nil, List.append_nil]
    rfl
  · have h' : Expecting s ([] ++ p :: []) (data ++ more) := h
    refine .inr ⟨⟨_, h'.feed_error (by rw [List.nil_append, ha]; exact Nat.zero_lt_one) (List.forall_mem_nil _) hp, ?_⟩,
      ?_⟩
    · rw [unread, h.inflated, List.map_nil, List.append_nil]
    · have hl := congrArg List.length h.bytes
      have hle := framedLen_take_arrived_le [p] (s.recvBuffer.length + data.length)
      rw [ha, List.take_succ_cons, List.take_zero] at hle
      simp only [List.length_append, framed_length] at hl
      exact List.length_eq_zero_iff.mp (by omega)

end PacketStream

namespace Connection

variable [Host] {c y : Connection} {p : Bytes}

-- What is not about authentication.
def standing (c : Connection) : Connection :=
  { c with
    authPluginName := .dialog
    salt := []
    authPhase := .initial
    serverPublicKey := none
    serverStatus := 0 }

omit [Host] in
theorem Reacts.standing {x : Connection × Reply} (h : Reacts c p x) (hx : ∀ e, x.2 ≠ .fail e) :
    x.1.standing = c.standing := by
  cases h
  case fail e       => exact absurd rfl (hx e)
  case sha256Empty hc =>
    obtain rfl | rfl := hc
    · rfl
    · rfl
  all_goals rfl

-- A dialogue leaves it alone.
theorem Talks.standing [Crypto] {gs : List (List Bytes)} {said : List Bytes} {r : Except Error Connection}
    (h : Talks gs said c r) : ∀ y, r = .ok y → y.standing = c.standing := by
  have reacted {c c' : Connection} {p : Bytes} {reply : Reply} (hr : reaction c (.new p) = (c', reply))
      (hf : ∀ e, reply ≠ .fail e) : c'.standing = c.standing := by
    have hs := Reacts.standing (reacts c p)
    rw [hr] at hs
    exact hs hf
  induction h
  case success hr =>
    intro y hy
    obtain rfl := Except.ok.inj hy
    exact reacted hr fun e he => (by cases he)
  case refused =>
    intro y hy
    cases hy
  case wait hr _ ih =>
    intro y hy
    exact (ih y hy).trans (reacted hr fun e he => (by cases he))
  case send hr _ _ ih =>
    intro y hy
    have hs := reacted hr fun e he => (by cases he)
    exact (ih y hy).trans hs

end Connection

namespace Tokio

-- Packets that come one after another, each of them in reads of its own.
inductive InTurn (max : UInt64) : UInt8 → List Bytes → List ReadEvent → Prop
  | nil (seq : UInt8) : InTurn max seq [] []
  | cons {seq : UInt8} {p : Bytes} {ps pieces : List Bytes} {reads : List ReadEvent} : Cut max seq [p] pieces →
    InTurn max (plainPackets seq p).2 ps reads → InTurn max seq (p :: ps) (pieces.map .ok ++ reads)

-- What the server sends up to each packet of the client, as the client reads it.
inductive Scripted (max : UInt64) : UInt8 → List (List Bytes) → List Bytes → List (List ReadEvent) → Prop
  | last {seq : UInt8} {ps : List Bytes} {reads : List ReadEvent} : InTurn max seq ps reads →
    Scripted max seq [ps] [] [reads]
  | next {seq : UInt8} {ps said : List Bytes} {gs : List (List Bytes)} {data : Bytes} {reads : List ReadEvent}
    {scripts : List (List ReadEvent)} : InTurn max seq ps reads →
    Scripted max (plainPackets (seqAfter seq ps) data).2 gs said scripts →
    Scripted max seq (ps :: gs) (data :: said) (reads :: scripts)

theorem Scripted.cons {max : UInt64} {seq : UInt8} {gs : List (List Bytes)} {said : List Bytes}
    {scripts : List (List ReadEvent)} (h : Scripted max seq gs said scripts) :
    ∃ reads more, scripts = reads :: more := by
  cases h
  all_goals exact ⟨_, _, rfl⟩

theorem Scripted.heard {max : UInt64} {seq : UInt8} {p : Bytes} {ps said : List Bytes} {gs : List (List Bytes)}
    {reads : List ReadEvent} {scripts : List (List ReadEvent)}
    (h : Scripted max seq ((p :: ps) :: gs) said (reads :: scripts)) :
    ∃ pieces reads', reads = pieces.map .ok ++ reads' ∧ Cut max seq [p] pieces ∧
      Scripted max (plainPackets seq p).2 (ps :: gs) said (reads' :: scripts) := by
  cases h
  case last hi    =>
    cases hi
    case cons hc hi => exact ⟨_, _, rfl, hc, .last hi⟩
  case next hi hs =>
    cases hi
    case cons hc hi => exact ⟨_, _, rfl, hc, .next hi hs⟩

theorem Scripted.done {max : UInt64} {seq : UInt8} {reads : List ReadEvent} {scripts : List (List ReadEvent)}
    (h : Scripted max seq [[]] [] (reads :: scripts)) : reads = [] ∧ scripts = [] := by
  cases h
  case last hi =>
    cases hi
    exact ⟨rfl, rfl⟩

theorem Scripted.said {max : UInt64} {seq : UInt8} {data : Bytes} {said : List Bytes} {gs : List (List Bytes)}
    {reads : List ReadEvent} {scripts : List (List ReadEvent)}
    (h : Scripted max seq ([] :: gs) (data :: said) (reads :: scripts)) :
    reads = [] ∧ ∃ reads' scripts', scripts = reads' :: scripts' ∧
      Scripted max (plainPackets seq data).2 gs said (reads' :: scripts') := by
  cases h
  case next hi hs =>
    cases hi
    obtain ⟨reads', scripts', rfl⟩ := hs.cons
    exact ⟨rfl, reads', scripts', rfl, hs⟩

-- The packets of the client, as they are written.
def spoken : UInt8 → List (List Bytes) → List Bytes → Bytes
  | seq, ps :: gs, data :: said =>
    (plainPackets (seqAfter seq ps) data).1 ++ spoken (plainPackets (seqAfter seq ps) data).2 gs said
  | _,   _,        _            => []

theorem spoken_nil (seq : UInt8) (gs : List (List Bytes)) : spoken seq gs [] = [] := by
  cases gs <;> rfl

namespace Connection

variable [Libraries] {i : MySQL.Connection} {p : Bytes} {pieces : List Bytes} (reads : List ReadEvent)
  (answers : List (List ReadEvent)) (written : Bytes) (dirty : Bool)

-- A packet is read, however it comes in. What comes later is not looked at.
theorem pumpRead_single (hn : [] ∉ pieces) (hq : i.packetStream.recvQueue = [])
    (h : Expecting i.packetStream [p] pieces.flatten)
    (hc : ∀ k, CleanCut [p] (i.packetStream.recvBuffer.length + (pieces.take k).flatten.length)) (hp : ¬IsError p) :
    pumpRead ⟨i, some ⟨pieces.map .ok ++ reads, answers, written, none⟩, dirty⟩ =
      .ok () ⟨i.setStream (i.packetStream.took p), some ⟨reads, answers, written, none⟩, dirty⟩ := by
  induction pieces generalizing i
  case nil          => exact absurd h.missing (by simp)
  case cons d ds ih =>
    have hd : d ≠ [] := fun hd => hn (hd ▸ List.mem_cons_self)
    rw [List.flatten_cons] at h
    have hc' (k : Nat) := hc (k + 1)
    simp only [List.take_succ_cons, List.flatten_cons, List.length_append, ← Nat.add_assoc] at hc'
    rw [pumpRead_data rfl rfl hd]
    obtain ⟨hf, hx⟩ | ⟨hf, hm⟩ := h.feed_single hq (by simpa using hc' 0) hp
    · have hrest := ih (i := i.setStream { i.packetStream with recvBuffer := i.packetStream.recvBuffer ++ d })
        (fun hm => hn (List.mem_cons_of_mem _ hm)) hq hx (by simpa using hc')
      simp only [MySQL.Connection.feedBytes, MySQL.Connection.onStream_apply, hf, Outcome.mapState_ok]
      exact hrest
    · obtain rfl : ds = [] := eq_nil_of_flatten (fun hm => hn (List.mem_cons_of_mem _ hm)) (by rw [hm]; rfl)
      simp only [MySQL.Connection.feedBytes, MySQL.Connection.onStream_apply, hf, Outcome.mapState_ok]
      rfl

-- An error packet is raised when all of it has been read.
theorem pumpRead_refused (hn : [] ∉ pieces) (hq : i.packetStream.recvQueue = [])
    (h : Expecting i.packetStream [p] pieces.flatten)
    (hc : ∀ k, CleanCut [p] (i.packetStream.recvBuffer.length + (pieces.take k).flatten.length)) (hp : IsError p) :
    ∃ y : MySQL.Connection, pumpRead ⟨i, some ⟨pieces.map .ok ++ reads, answers, written, none⟩, dirty⟩ =
      .error (Error.raiseMysqlException p) ⟨y, some ⟨reads, answers, written, none⟩, dirty⟩ ∧
      y.packetStream.unread = ([], [], []) := by
  induction pieces generalizing i
  case nil          => exact absurd h.missing (by simp)
  case cons d ds ih =>
    have hd : d ≠ [] := fun hd => hn (hd ▸ List.mem_cons_self)
    rw [List.flatten_cons] at h
    have hc' (k : Nat) := hc (k + 1)
    simp only [List.take_succ_cons, List.flatten_cons, List.length_append, ← Nat.add_assoc] at hc'
    rw [pumpRead_data rfl rfl hd]
    simp only [MySQL.Connection.feedBytes, MySQL.Connection.onStream_apply]
    obtain ⟨hf, hx⟩ | ⟨⟨s, hf, hu⟩, hm⟩ := h.feed_refused (by simpa using hc' 0) hp
    · simp only [hf, Outcome.mapState_ok]
      exact ih (i := i.setStream { i.packetStream with recvBuffer := i.packetStream.recvBuffer ++ d })
        (fun hm => hn (List.mem_cons_of_mem _ hm)) hq hx (by simpa using hc')
    · obtain rfl : ds = [] := eq_nil_of_flatten (fun hm => hn (List.mem_cons_of_mem _ hm)) (by rw [hm]; rfl)
      simp only [hf, Outcome.mapState_error]
      exact ⟨i.setStream s, rfl, hu.trans (by rw [hq])⟩

section Dialogue

open MySQL.Connection (Talks perform reaction)

variable [Crypto] [Host] {s : PacketStream} {x : MySQL.Connection} {gs : List (List Bytes)} {said : List Bytes}

omit [Libraries] [Crypto] [Host] in
theorem idle_expecting (h : Idle s) (hc : Cut s.maxAllowedPacket s.nextSeqId [p] pieces) :
    Expecting s [p] pieces.flatten where
  plain    := h.plain
  inflated := h.inflated
  bytes    := by rw [h.buffer]; exact hc.bytes
  fits     := hc.fits
  front    := by
    rw [h.buffer, Front, firstFragmentLen]
    exact Nat.lt_add_right _ (by decide)

omit [Libraries] [Crypto] [Host] in
theorem idle_seq {s : PacketStream} (h : Idle s) (seq : UInt8) : Idle { s with nextSeqId := seq } :=
  ⟨h.plain, h.inflated, h.buffer, h.queue⟩

-- One round of the machine.
theorem authLoop_heard (h : Idle s) (hc : Cut s.maxAllowedPacket s.nextSeqId [p] pieces) (hp : ¬IsError p) :
    authLoop .needRead ⟨x.setStream s, some ⟨pieces.map .ok ++ reads, answers, written, none⟩, dirty⟩ =
      ((perform ((reaction x (.new p)).1.setStream { s with nextSeqId := (plainPackets s.nextSeqId p).2 },
        (reaction x (.new p)).2)).mapState fun i => ⟨i, some ⟨reads, answers, written, none⟩, dirty⟩).bind
          authLoop := by
  have hread := pumpRead_single (i := x.setStream s) reads answers written dirty hc.nonempty h.queue
    (idle_expecting h hc) (by simpa [h.buffer] using hc.clean) hp
  have hcontinue := MySQL.Connection.requestAuthenticationContinue_eq (x.setStream (s.took p)) (.new p) rfl
  have hs : { s.took p with recvQueue := [] } = { s with nextSeqId := (plainPackets s.nextSeqId p).2 } := by
    have hb := h.buffer
    have hq := h.queue
    obtain ⟨_, _, _, _, _, _, _, _⟩ := s
    obtain rfl := hb
    obtain rfl := hq
    rfl
  rw [authLoop_needRead, Proc.bind_apply, hread, Outcome.bind_ok, Proc.bind_apply, onInner_apply]
  simp only [MySQL.Connection.setStream_setStream, hcontinue, MySQL.Connection.setStream_packetStream]
  rw [hs, MySQL.Connection.reaction_setStream]
  rfl

omit [Libraries] [Crypto] [Host] in
-- A packet is written, and what comes of it can be read.
theorem flushed_sent (hq : s.sendQueue = []) (x : MySQL.Connection) (data : Bytes) (phase : AuthPhase) :
    flushed ⟨(x.setStream s).sent data phase, some ⟨[], reads :: answers, written, none⟩, dirty⟩ =
      ⟨(x.setAuthPhase phase).setStream { s with nextSeqId := (plainPackets s.nextSeqId data).2 },
        some ⟨reads, answers, written ++ (plainPackets s.nextSeqId data).1, none⟩, dirty⟩ := by
  obtain ⟨_, _, _, _, _, _, _, _⟩ := s
  obtain rfl := hq
  simp only [flushed, MySQL.Connection.sent, MySQL.Connection.setStream, Option.getD_some, List.nil_append,
    MySQL.Connection.setAuthPhase_packetStream, List.flatten_singleton, List.headD_cons, List.tail_cons]
  rfl

-- How a dialogue ends for the driver. What has been read is used up, and the reads behind stay where they are.
def Ends (s : PacketStream) (rest : List (List ReadEvent)) (written : Bytes) (dirty : Bool)
    (r : Except Error MySQL.Connection) (o : Outcome Error Connection Unit) : Prop :=
  (∀ y, r = .ok y →
    ∃ seq, o = .ok () ⟨y.setStream { s with nextSeqId := seq }, some ⟨[], rest, written, none⟩, dirty⟩) ∧
    ∀ e, r = .error e → ∃ y : MySQL.Connection, o = .error e ⟨y, some ⟨[], rest, written, none⟩, dirty⟩ ∧
      y.packetStream.unread = ([], [], [])

-- The driver has the dialogue, as long as each packet comes in reads of its own.
theorem ends_of_talks {r : Except Error MySQL.Connection} {scripts : List (List ReadEvent)} (h : Talks gs said x r)
    (hs : Idle s) (hq : s.sendQueue = [])
    (ha : Scripted s.maxAllowedPacket s.nextSeqId gs said (reads :: scripts))
    (rest : List (List ReadEvent)) :
    Ends s rest (written ++ spoken s.nextSeqId gs said) dirty r
      (authLoop .needRead ⟨x.setStream s, some ⟨reads, scripts ++ rest, written, none⟩, dirty⟩) := by
  induction h generalizing s reads scripts written
  case success p x y hp hr =>
    obtain ⟨pieces, reads, rfl, hc, ha⟩ := ha.heard
    obtain ⟨rfl, rfl⟩ := ha.done
    rw [authLoop_heard _ _ _ _ hs hc hp, hr]
    simp only [perform, Outcome.mapState_ok, Outcome.bind_ok, authLoop_success]
    refine ⟨fun y hy => ⟨(plainPackets s.nextSeqId p).2, ?_⟩, fun e he => (by cases he)⟩
    obtain rfl := Except.ok.inj hy
    rw [spoken_nil, List.append_nil, List.nil_append]
  case refused p x hp =>
    obtain ⟨pieces, reads, rfl, hc, ha⟩ := ha.heard
    obtain ⟨rfl, rfl⟩ := ha.done
    obtain ⟨y, hr, hu⟩ := pumpRead_refused (i := x.setStream s) [] ([] ++ rest) written dirty hc.nonempty hs.queue
      (idle_expecting hs hc) (by simpa [hs.buffer] using hc.clean) hp
    refine ⟨fun y hy => (by cases hy), fun e he => ⟨y, ?_, hu⟩⟩
    obtain rfl := Except.error.inj he
    rw [authLoop_needRead, Proc.bind_apply, hr, Outcome.bind_error, spoken_nil, List.append_nil, List.nil_append]
  case wait p ps gs said x x' r hp hr h ih =>
    obtain ⟨pieces, reads, rfl, hc, ha⟩ := ha.heard
    have hrest := ih reads written (idle_seq hs (plainPackets s.nextSeqId p).2) hq ha
    have hspoken : spoken s.nextSeqId ((p :: ps) :: gs) said =
        spoken (plainPackets s.nextSeqId p).2 (ps :: gs) said := by
      cases said <;> rfl
    rw [authLoop_heard _ _ _ _ hs hc hp, hr, hspoken]
    exact hrest
  case send p data gs said x x' credential phase r hp hr hd h ih =>
    obtain ⟨pieces, reads, rfl, hc, ha₁⟩ := ha.heard
    obtain ⟨rfl, reads, scripts, rfl, ha₂⟩ := ha₁.said
    have heard := idle_seq hs (plainPackets s.nextSeqId p).2
    have hsend := MySQL.Connection.sendAuthData_plain (c := x'.setStream _) heard.plain data phase
    have hf := flushed_sent reads (scripts ++ rest) written dirty
      (s := { s with nextSeqId := (plainPackets s.nextSeqId p).2 }) hq x' data phase
    have hrest := ih reads (written ++ (plainPackets (plainPackets s.nextSeqId p).2 data).1)
      (idle_seq hs (plainPackets (plainPackets s.nextSeqId p).2 data).2) hq ha₂
    rw [authLoop_heard _ _ _ _ hs hc hp, hr]
    simp only [perform, MySQL.Connection.setStream_options, hd, hsend, Outcome.mapState_ok, Outcome.bind_ok]
    rw [authLoop_send, Proc.bind_apply, pumpWrite_ok rfl rfl, Outcome.bind_ok, List.cons_append, hf]
    rw [List.append_assoc] at hrest
    exact hrest

end Dialogue

section Login

open MySQL.Connection (Attainable Decided Knows Talks)

variable [Crypto] [Host] [Tls] {c₀ c c' : Connection}

-- The credentials have been queued, in the clear or behind an upgrade to TLS: `c` queues them, and becomes `c'`.
inductive Presents (c₀ : Connection) : Connection → Connection → Prop
  | plain {i : MySQL.Connection} : MySQL.Connection.requestAuthenticationStart c₀.inner = .ok .needRead i →
    Presents c₀ c₀ (c₀.setInner i)
  | secure {i i' : MySQL.Connection} {c : Connection} :
    MySQL.Connection.requestAuthenticationStart c₀.inner = .ok .send i →
    upgradeToTls (c₀.setInner i).flushed = .ok () c →
    MySQL.Connection.requestAuthenticationSendCredentials c.inner = .ok .needRead i' →
    Presents c₀ c (c.setInner i')

-- The connection when the greeting has been read and taken apart.
def greeted (x : MySQL.Connection) (answers : List (List ReadEvent)) : Connection :=
  ⟨x, some ⟨[], answers, [], none⟩, false⟩

-- A connection that has not begun to authenticate.
structure Unbegun (c : Connection) : Prop extends Live c where
  idle    : Idle c.inner.packetStream
  unasked : c.inner.needsTlsUpgrade = false
  clear   : c.inner.secure = false

theorem Presents.authenticate (h : Presents c₀ c c') (hu : Unbegun c₀) :
    Connection.authenticate c₀ = (pumpWrite c').bind fun _ => authLoop .needRead := by
  have ⟨st, hst, hb⟩ := hu.stream
  have hstart := MySQL.Connection.requestAuthenticationStart_cases (c := c₀.inner) hu.idle.plain
  rw [Connection.authenticate, Proc.bind_apply, onInner_apply]
  cases h
  case plain i hi =>
    rw [hi] at hstart ⊢
    obtain ⟨_, ⟨⟩⟩ | ⟨_, _, _, ⟨⟩⟩ | ⟨_, payload, _, he⟩ := hstart
    obtain ⟨_, rfl⟩ := Outcome.ok.inj he
    have hn : (c₀.inner.sent payload .initial).needsTlsUpgrade = false := hu.unasked
    simp only [Outcome.mapState_ok, Outcome.bind_ok, Proc.bind_apply, Proc.get_apply, setInner_inner, hn,
      Bool.false_eq_true, if_false]
  case secure i i' hi hup hsend =>
    rw [hi] at hstart ⊢
    obtain ⟨_, ⟨⟩⟩ | ⟨_, charset, _, he⟩ | ⟨_, _, _, ⟨⟩⟩ := hstart
    obtain ⟨_, rfl⟩ := Outcome.ok.inj he
    have hn : (c₀.inner.tlsRequested charset).needsTlsUpgrade = true := rfl
    have hw := pumpWrite_ok (c := c₀.setInner (c₀.inner.tlsRequested charset)) hst hb
    simp only [Outcome.mapState_ok, Outcome.bind_ok, Proc.bind_apply, Proc.get_apply, setInner_inner, hn, if_true, hw,
      hup, onInner_apply, hsend]

-- What is known when the credentials have been queued.
structure Presented (c₀ c c' : Connection) (payload : Bytes) : Prop where
  idle    : Idle c.inner.packetStream
  sent    : c.inner.packetStream.sendQueue = []
  max     : c.inner.packetStream.maxAllowedPacket = c₀.inner.packetStream.maxAllowedPacket
  open_   : c.inner.closed = c₀.inner.closed
  result  : c.inner.result = c₀.inner.result
  secured : c.inner.secure = false → c = c₀
  carries : c.inner.handshakeResponse (c.inner.clientFlag ||| if c.inner.secure then SSL else 0)
    c.inner.firstCredential = .ok payload
  queued  : c' = c.setInner (c.inner.sent payload .initial)

theorem Presents.presented (h : Presents c₀ c c') (hu : Unbegun c₀) : ∃ payload, Presented c₀ c c' payload := by
  have hstart := MySQL.Connection.requestAuthenticationStart_cases (c := c₀.inner) hu.idle.plain
  cases h
  case plain i hi =>
    rw [hi] at hstart
    obtain ⟨_, ⟨⟩⟩ | ⟨_, _, _, ⟨⟩⟩ | ⟨_, payload, hr, he⟩ := hstart
    obtain ⟨_, rfl⟩ := Outcome.ok.inj he
    refine ⟨payload, hu.idle, hu.sent, rfl, rfl, rfl, fun _ => rfl, ?_, rfl⟩
    rw [hu.clear]
    simpa using hr
  case secure i i' hi hup hsend =>
    rw [hi] at hstart
    obtain ⟨_, ⟨⟩⟩ | ⟨_, charset, _, he⟩ | ⟨_, _, _, ⟨⟩⟩ := hstart
    obtain ⟨_, rfl⟩ := Outcome.ok.inj he
    obtain ⟨tls, htls⟩ | ⟨_, htls | htls⟩ | htls :=
      upgradeToTls_cases (c₀.setInner (c₀.inner.tlsRequested charset)).flushed
    all_goals
      rw [htls] at hup
      cases hup
    have hplain : (((c₀.setInner (c₀.inner.tlsRequested charset)).flushed.withoutStream.setSocket
      tls).setSecure).inner.packetStream.compressed = false := hu.idle.plain
    rw [MySQL.Connection.requestAuthenticationSendCredentials_plain hplain] at hsend
    split at hsend
    case h_2 => cases hsend
    case h_1 payload hr =>
      obtain ⟨_, rfl⟩ := Outcome.ok.inj hsend
      have hidle := hu.idle
      refine ⟨payload, ⟨hidle.plain, hidle.inflated, hidle.buffer, hidle.queue⟩, rfl, rfl, rfl, rfl, ?_, hr, rfl⟩
      intro hn
      cases hn

variable {s : MySQL.Authority} {a : MySQL.Account}

-- What the client writes, and what the server makes of it. The driver ends as the dialogue does.
theorem Presents.ends (h₂ : ∀ m, (Crypto.sha256 m).length = 32) (hk : Knows s a c.inner) (hs : c.inner.Speaks)
    (hf : Attainable a (s.nonceFor a c.inner) c.inner) (hu : Unbegun c₀) (h : Presents c₀ c c') :
    ∃ payload said r, Presented c₀ c c' payload ∧
      Decided s (a.grants (s.nonceFor a c.inner) c.inner.options.password) r ∧
      Talks (s.serve .greeted (payload :: said)) said (c.inner.setAuthPhase .initial) r ∧
      (∀ y, r = .ok y → y.standing = c.inner.standing) ∧
      ∀ (scripts rest : List (List ReadEvent)) (written : Bytes),
        c.stream = some ⟨[], scripts ++ rest, written, none⟩ →
        Scripted c.inner.packetStream.maxAllowedPacket (plainPackets c.inner.packetStream.nextSeqId payload).2
          (s.serve .greeted (payload :: said)) said scripts →
        Ends c.inner.packetStream rest (written ++ spoken c.inner.packetStream.nextSeqId
          ([] :: s.serve .greeted (payload :: said)) (payload :: said)) c.transactionDirty r
          (Connection.authenticate c₀) := by
  obtain ⟨payload, hp⟩ := h.presented hu
  obtain ⟨said, r, ht, hd⟩ := hk.decides h₂ hs hf rfl hp.carries
  refine ⟨payload, said, r, hp, hd, ht, ht.standing, fun scripts rest written hst ha => ?_⟩
  obtain ⟨reads, scripts, rfl⟩ := ha.cons
  have hc' : c' = ⟨(c.inner.setStream c.inner.packetStream).sent payload .initial,
      some ⟨[], reads :: (scripts ++ rest), written, none⟩, c.transactionDirty⟩ := by
    rw [hp.queued, setInner, hst]
    rfl
  have hends := ends_of_talks reads (written ++ (plainPackets c.inner.packetStream.nextSeqId payload).1)
    c.transactionDirty ht (idle_seq hp.idle (plainPackets c.inner.packetStream.nextSeqId payload).2) hp.sent ha rest
  rw [h.authenticate hu, hc', pumpWrite_ok rfl rfl, flushed_sent _ _ _ _ hp.sent, Outcome.bind_ok]
  rw [List.append_assoc] at hends
  exact hends

-- The client is let in if and only if the server grants it. Either way it has then read all that the server has
-- sent for it.
theorem Presents.decided (h₂ : ∀ m, (Crypto.sha256 m).length = 32) (hk : Knows s a c.inner) (hs : c.inner.Speaks)
    (hf : Attainable a (s.nonceFor a c.inner) c.inner) (hu : Unbegun c₀) (h : Presents c₀ c c') :
    ∃ payload said r, Presented c₀ c c' payload ∧
      Talks (s.serve .greeted (payload :: said)) said (c.inner.setAuthPhase .initial) r ∧
      ∀ (scripts rest : List (List ReadEvent)) (written : Bytes), c.stream = some ⟨[], scripts ++ rest, written, none⟩ →
      Scripted c.inner.packetStream.maxAllowedPacket (plainPackets c.inner.packetStream.nextSeqId payload).2
        (s.serve .greeted (payload :: said)) said scripts →
      if a.grants (s.nonceFor a c.inner) c.inner.options.password then
        ∃ (y : MySQL.Connection) (seq : UInt8), y.standing = c.inner.standing ∧ Connection.authenticate c₀ =
          .ok () ⟨y.setStream { c.inner.packetStream with nextSeqId := seq },
            some ⟨[], rest, written ++ spoken c.inner.packetStream.nextSeqId
              ([] :: s.serve .greeted (payload :: said)) (payload :: said), none⟩, c.transactionDirty⟩
      else ∃ y : MySQL.Connection, y.packetStream.unread = ([], [], []) ∧ Connection.authenticate c₀ =
        .error (Error.raiseMysqlException (Server.errPayload s.refusal))
          ⟨y, some ⟨[], rest, written ++ spoken c.inner.packetStream.nextSeqId
            ([] :: s.serve .greeted (payload :: said)) (payload :: said), none⟩, c.transactionDirty⟩ := by
  obtain ⟨payload, said, r, hp, hd, ht, hstand, hends⟩ := h.ends h₂ hk hs hf hu
  refine ⟨payload, said, r, hp, ht, fun scripts rest written hst ha => ?_⟩
  obtain ⟨hok, herror⟩ := hends scripts rest written hst ha
  rw [Decided] at hd
  split_ifs at hd ⊢
  case pos =>
    obtain ⟨y, rfl⟩ := hd
    obtain ⟨seq, ho⟩ := hok y rfl
    exact ⟨y, seq, hstand y rfl, ho⟩
  case neg =>
    obtain ⟨y, ho, hu⟩ := herror _ hd
    exact ⟨y, hu, ho⟩

end Login

end Connection
end Tokio

section Examples

open Connection (Attainable Knows Speaks Talks)
open Server Tokio Tokio.Connection

attribute [local instance] Libraries.utf8Only Crypto.recorded Host.initProcess Tls.transparent

def loginOptions : ConnectOptions where
  user := ['u']
  password := [97]
  sslMode := .disabled

def loginGreeting : Bytes :=
  [10, 56, 0, 1, 0, 0, 0] ++ recordedNonce.take 8 ++ [0, 0, 0x80, 45, 2, 0, 8, 0, 21] ++ List.replicate 10 0 ++
    recordedNonce.drop 8 ++ [0] ++ AuthPlugin.mysqlNativePassword.asBytes ++ [0]

def loginInner : Connection :=
  .fresh loginOptions ⟨45, "utf8mb4", true⟩

def loginGreeted : Connection :=
  (Connection.getServerInformation (loginInner.setStream (loginInner.packetStream.took loginGreeting))).state

def loginAccount : Account where
  scheme := .native
  stored := some (recordedSha1 (recordedSha1 [97]))

def loginAuthority : Authority where
  capabilities := loginGreeted.serverCapabilities
  salt := recordedNonce
  nonce := recordedNonce
  find user := if user = [117] then some loginAccount else none
  welcome := done
  refusal := []

theorem login_knows : Knows loginAuthority loginAccount loginGreeted where
  capabilities := rfl
  salt         := rfl
  welcome      := by decide
  find         := rfl

theorem login_speaks : Speaks loginGreeted where
  announces := ⟨rfl, by decide⟩
  user      := by decide
  database  := fun db h => (by cases h)
  response  := by decide
  attrs     := by decide
  plugin    := by decide
  named     := rfl
  delimited := .inr (by decide)

theorem login_attainable :
    Attainable loginAccount (loginAuthority.nonceFor loginAccount loginGreeted) loginGreeted := by
  rintro _ ⟨⟩

def loginConnection (answers : List (List ReadEvent)) : Tokio.Connection :=
  greeted loginGreeted answers

theorem login_grants (answers : List (List ReadEvent)) :
    loginAccount.grants (loginAuthority.nonceFor loginAccount (loginConnection answers).inner)
      (loginConnection answers).inner.options.password = true :=
  Account.grants_of_has recordedSha1_length recordedSha256_length rfl rfl

theorem login_unbegun (answers : List (List ReadEvent)) : (loginConnection answers).Unbegun where
  open_   := rfl
  sent    := rfl
  stream  := ⟨_, rfl, rfl⟩
  idle    := ⟨rfl, rfl, rfl, rfl⟩
  unasked := rfl
  clear   := rfl

theorem login_presents (answers : List (List ReadEvent)) :
    ∃ c', Presents (loginConnection answers) (loginConnection answers) c' := by
  have ⟨i, hi⟩ : ∃ i, Connection.requestAuthenticationStart loginGreeted = .ok .needRead i := ⟨_, rfl⟩
  exact ⟨(loginConnection answers).setInner i, .plain hi⟩

theorem login_short {payload : Bytes}
    (h : loginGreeted.handshakeResponse loginGreeted.clientFlag loginGreeted.firstCredential = .ok payload) :
    payload.length < maxPacketLen := by
  have ⟨p, hp, hl⟩ : ∃ p, loginGreeted.handshakeResponse loginGreeted.clientFlag loginGreeted.firstCredential = .ok p ∧
    p.length < maxPacketLen := ⟨_, rfl, by decide⟩
  obtain rfl := Except.ok.inj (hp.symm.trans h)
  exact hl

-- The server accepts at once.
theorem login_served {payload : Bytes}
    (h : loginGreeted.handshakeResponse loginGreeted.clientFlag loginGreeted.firstCredential = .ok payload)
    (said : List Bytes) : loginAuthority.serve .greeted (payload :: said) = [[done.payload]] := by
  obtain ⟨r, hparse, huser, hplugin, hresponse⟩ := login_speaks.parsed (by decide) h
  have haccept : loginAccount.accepts recordedNonce r.authResponse = true := by
    rw [hresponse]
    exact Account.accepts_scramble recordedSha1_length recordedSha256_length rfl rfl
  have hfind : loginAuthority.find r.user = some loginAccount := by rw [huser]; rfl
  have hplugin : r.plugin = some loginAccount.scheme.plugin.asBytes := hplugin
  refine Connection.serve_done ?_ said
  rw [Authority.respond, login_knows.capabilities, hparse]
  simp only [hfind, hplugin, if_true]
  change ([loginAuthority.verdict (loginAccount.accepts recordedNonce r.authResponse)], none) = _
  rw [haccept]
  rfl

theorem talks_done {p : Bytes} {said : List Bytes} {x : Connection} {r : Except Error Connection}
    (h : Talks [[p]] said x r) : said = [] := by
  cases h
  case success => rfl
  case refused => rfl
  case wait h => cases h
  case send h => cases h

-- What the server sends for it.
def loginReads : List ReadEvent :=
  [.ok (framed 2 [done.payload])]

theorem login_scripted {payload : Bytes} {said : List Bytes}
    (h : loginGreeted.handshakeResponse loginGreeted.clientFlag loginGreeted.firstCredential = .ok payload)
    (ht : ∃ r, Talks (loginAuthority.serve .greeted (payload :: said)) said (loginGreeted.setAuthPhase .initial) r) :
    Scripted loginOptions.maxAllowedPacket (plainPackets loginGreeted.packetStream.nextSeqId payload).2
      (loginAuthority.serve .greeted (payload :: said)) said [loginReads] := by
  obtain ⟨r, ht⟩ := ht
  rw [login_served h] at ht ⊢
  obtain rfl := talks_done ht
  have hne : framed 2 [done.payload] ≠ [] := by
    rw [← List.length_pos_iff, framed_length]
    decide
  have hcut : Cut loginOptions.maxAllowedPacket 2 [done.payload] [framed 2 [done.payload]] :=
    .of_short (by simpa using hne.symm) List.flatten_singleton (by decide) (by decide) (by decide)
  have hfirst : loginGreeted.packetStream.nextSeqId = (plainPackets 0 loginGreeting).2 := rfl
  have hseq : (plainPackets loginGreeted.packetStream.nextSeqId payload).2 = 2 := by
    rw [plainPackets_short (login_short h), hfirst, plainPackets_short (by decide)]
    rfl
  rw [hseq]
  exact .last (.cons hcut (.nil _))

theorem login_decided : ∃ c₁, authenticate (loginConnection [loginReads]) = .ok () c₁ := by
  obtain ⟨c', h⟩ := login_presents [loginReads]
  obtain ⟨payload, said, r, hp, ht, hrun⟩ :=
    Presents.decided (s := loginAuthority) (a := loginAccount) (c := loginConnection [loginReads]) recordedSha256_length
      login_knows login_speaks login_attainable (login_unbegun _) h
  have hrun := hrun [loginReads] [] [] rfl (login_scripted hp.carries ⟨r, ht⟩)
  rw [if_pos (login_grants [loginReads])] at hrun
  obtain ⟨y, seq, _, hrun⟩ := hrun
  exact ⟨_, hrun⟩

end Examples
end MySQL
