import Mathlib.Data.Prod.Lex
import MysqlRs.Core.Commands

namespace MySQL.Tokio

open ClientError

-- What one read of the socket gives: bytes (none at the end of the stream) or an I/O error.
abbrev ReadEvent := Except String Bytes

-- The peer reacts to a flush: the next of `answers` is what it sends then, cut into the reads in which
-- it reaches the client. Writing fails on a `broken` stream.
@[ext]
structure ConnectionStream where
  incoming : List ReadEvent
  answers  : List (List ReadEvent)
  written  : Bytes
  broken   : Option String

@[ext]
structure Connection where
  inner : MySQL.Connection
  stream : Option ConnectionStream
  transactionDirty : Bool

def lostConnection (reason : String) : Error :=
  .operationalError CR_SERVER_LOST s!"Lost connection to MySQL server during query{reason}"

def goneAway (reason : String) : Error :=
  .operationalError CR_SERVER_GONE_ERROR s!"MySQL server has gone away ({reason})"

def noStream : Error :=
  .interfaceError CR_NULL_POINTER "No stream available"

namespace Connection

@[simps]
def setInner (c : Connection) (inner : MySQL.Connection) : Connection :=
  { c with inner := inner }

@[simps]
def setSocket (c : Connection) (stream : ConnectionStream) : Connection :=
  { c with stream := some stream }

-- Both ends are given up after the connection has been lost.
def abandoned (c : Connection) : Connection :=
  { c with inner := c.inner.forceClose, stream := none }

def incoming (c : Connection) : List ReadEvent :=
  (c.stream.map (·.incoming)).getD []

def written (c : Connection) : Bytes :=
  (c.stream.map (·.written)).getD []

-- What the peer sends on the next flushes, in the reads in which it arrives.
def answers (c : Connection) : List (List ReadEvent) :=
  (c.stream.map (·.answers)).getD []

-- The number of reads that the peer has something for, now or after a flush.
def reads (c : Connection) : Nat :=
  (c.incoming ++ c.answers.flatten).length

-- Gets smaller with every packet that is taken: there is less to be read, or as much and less in the
-- queue.
def remaining (c : Connection) : Nat ×ₗ Nat :=
  toLex (c.reads, c.inner.packetStream.recvQueue.length)

theorem remaining_of_reads {c c' : Connection} (h : c'.reads < c.reads) : c'.remaining < c.remaining :=
  Prod.Lex.toLex_lt_toLex.mpr (.inl h)

-- Runs an operation of the sans-I/O connection.
def onInner {α : Type} (x : Proc Error MySQL.Connection α) : Proc Error Connection α :=
  x.zoom inner fun i c => c.setInner i

@[simp]
theorem onInner_apply {α : Type} (x : Proc Error MySQL.Connection α) (c : Connection) :
    onInner x c = (x c.inner).mapState c.setInner :=
  rfl

def writeAll (data : Bytes) : Proc Error Connection Unit := fun c =>
  match c.stream with
  | none    => .error noStream c
  | some st =>
    match st.broken with
    | some e => .error (goneAway e) (c.setInner c.inner.forceClose)
    | none   => .ok () (c.setSocket { st with written := st.written ++ data })

def flush : Proc Error Connection Unit := fun c =>
  match c.stream with
  | none    => .error noStream c
  | some st =>
    match st.broken with
    | some e => .error (goneAway e) (c.setInner c.inner.forceClose)
    | none   =>
      .ok () <| c.setSocket
        { st with incoming := st.incoming ++ st.answers.headD [], answers := st.answers.tail }

@[simps!]
def setSendQueue (c : Connection) (queue : List Bytes) : Connection :=
  c.setInner (c.inner.setStream { c.inner.packetStream with sendQueue := queue })

-- Takes the packets off the send queue one by one.
def writeQueue : List Bytes → Proc Error Connection Unit
  | []            => pure ()
  | data :: queue => do
    modify (·.setSendQueue queue)
    writeAll data
    writeQueue queue

theorem writeQueue_ok {c : Connection} {st : ConnectionStream} (hs : c.stream = some st) (hb : st.broken = none)
    (queue : List Bytes) :
    writeQueue queue (c.setSendQueue queue) = .ok () ((c.setSendQueue []).setSocket
      { st with written := st.written ++ queue.flatten }) := by
  induction queue generalizing c st
  case nil =>
    simp [writeQueue, setSocket, ← hs]
    rfl
  case cons data queue ih =>
    have hw : writeAll data (c.setSendQueue queue) = .ok () ((c.setSocket
        { st with written := st.written ++ data }).setSendQueue queue) := by
      simp [writeAll, hs, hb]
      rfl
    have hr := ih (c := c.setSocket { st with written := st.written ++ data }) rfl hb
    change ((writeAll data (c.setSendQueue queue)).bind fun _ => writeQueue queue) = _
    rw [hw, Outcome.bind_ok, hr, List.flatten_cons, List.append_assoc]
    rfl

def pumpWrite : Proc Error Connection Unit := do
  writeQueue (← get).inner.packetStream.sendQueue
  flush

variable [Libraries]

-- Reads until at least one packet is complete. It waits where nothing more has come in.
def pumpRead : Proc Error Connection Unit := fun c =>
  match _h : c.stream with
  | none    => .error (lostConnection " (No stream available)") c.abandoned
  | some st =>
    match _h' : st.incoming with
    | []               => .pending c
    | .error e :: _    => .error (lostConnection s!" ({e})") c.abandoned
    | .ok [] :: _      => .error (lostConnection "") c.abandoned
    | .ok data :: rest =>
      match c.inner.feedBytes data with
      | .ok added inner =>
        let c := (c.setSocket { st with incoming := rest }).setInner inner
        if 0 < added then .ok () c else pumpRead c
      | .error e inner  => .error e ((c.setSocket { st with incoming := rest }).setInner inner)
      | .pending inner  => .pending ((c.setSocket { st with incoming := rest }).setInner inner)
termination_by c => c.incoming.length
decreasing_by simp [incoming, _h, _h']

theorem pumpRead_data {c : Connection} {st : ConnectionStream} {data : Bytes} {rest : List ReadEvent}
    (hs : c.stream = some st) (hi : st.incoming = .ok data :: rest) (hd : data ≠ []) :
    pumpRead c =
      let advance (inner : MySQL.Connection) :=
        (c.setSocket { st with incoming := rest }).setInner inner
      match c.inner.feedBytes data with
      | .ok added inner => if 0 < added then .ok () (advance inner) else pumpRead (advance inner)
      | .error e inner  => .error e (advance inner)
      | .pending inner  => .pending (advance inner) := by
  rw [pumpRead]
  split <;> rename_i hs'
  · exact nomatch hs.symm.trans hs'
  · obtain rfl := Option.some.inj (hs.symm.trans hs')
    split <;> rename_i hi'
    case h_4 =>
      obtain ⟨hdata, rfl⟩ := List.cons.inj (hi.symm.trans hi')
      obtain rfl := Except.ok.inj hdata
      rfl
    case h_3 => exact absurd (Except.ok.inj (List.cons.inj (hi.symm.trans hi')).left) hd
    all_goals exact nomatch hi.symm.trans hi'

theorem pumpRead_nil {c : Connection} {st : ConnectionStream} (hs : c.stream = some st)
    (hi : st.incoming = []) : pumpRead c = .pending c := by
  rw [pumpRead]
  split <;> rename_i hs'
  · exact nomatch hs.symm.trans hs'
  · obtain rfl := Option.some.inj (hs.symm.trans hs')
    split <;> simp_all

theorem pumpRead_lt {c c' : Connection} (h : pumpRead c = .ok () c') : c'.reads < c.reads := by
  fun_induction pumpRead c
  case case5 hs _ _ _ hi _ _ _ c₁ _ =>
    obtain ⟨_, rfl⟩ := Outcome.ok.inj h
    simp [reads, incoming, answers, hs, hi, c₁]
  case case6 hs _ _ _ hi _ _ _ c₁ _ ih =>
    refine Nat.lt_trans (ih h) ?_
    simp [reads, incoming, answers, hs, hi, c₁]
  all_goals exact nomatch h

def readPacket : Proc Error Connection MysqlPacket := fun c =>
  match c.inner.readPacket with
  | .ok packet inner        => .ok packet (c.setInner inner)
  | .error .needMoreData _  =>
    match _h : pumpRead c with
    | .ok () c   => readPacket c
    | .error e c => .error e c
    | .pending c => .pending c
  | .error e inner          => .error e (c.setInner inner)
  | .pending inner          => .pending (c.setInner inner)
termination_by c => c.reads
decreasing_by exact pumpRead_lt _h

theorem readPacket_of_queue {c : Connection} {p : MysqlPacket} {ps : List MysqlPacket}
    (h : c.inner.packetStream.recvQueue = p :: ps) :
    readPacket c =
      .ok p (c.setInner (c.inner.setStream { c.inner.packetStream with recvQueue := ps })) := by
  rw [readPacket, MySQL.Connection.readPacket_cons h]

theorem readPacket_of_empty {c : Connection} (h : c.inner.packetStream.recvQueue = []) :
    readPacket c = (pumpRead c).bind fun _ => readPacket := by
  rw [readPacket, MySQL.Connection.readPacket_nil h]
  simp only
  split <;> rename_i hp <;> rw [hp] <;> rfl

theorem readPacket_lt {c c' : Connection} {p : MysqlPacket} (h : readPacket c = .ok p c') :
    c'.remaining < c.remaining := by
  fun_induction readPacket c
  case case1 hi =>
    obtain ⟨_, rfl⟩ := Outcome.ok.inj h
    have ⟨ps, hq, hi⟩ := MySQL.Connection.readPacket_ok hi
    refine Prod.Lex.toLex_lt_toLex.mpr (.inr ⟨?_, ?_⟩)
    · simp [reads, incoming, answers]
    · simp [hi, hq]
  case case2 hp ih => exact lt_trans (ih h) (remaining_of_reads (pumpRead_lt hp))
  all_goals exact nomatch h

def packets : Source Error Connection MysqlPacket where
  next := readPacket
  measure := remaining
  decreasing h := readPacket_lt h

def readOkPacket : Proc Error Connection OkPacketWrapper := do
  let packet ← readPacket
  if !packet.isOkPacket then
    Proc.throw (.operationalError CR_COMMANDS_OUT_OF_SYNC "Command Out of Sync")
  packet.run OkPacketWrapper.fromPacket

-- What does not depend on the packet stream, and not on whether the connection is closed.
structure Lasting {δ : Type} (f : MySQL.Connection → δ) : Prop where
  stream : ∀ c s, f (c.setStream s) = f c
  closed : ∀ c b, f { c with closed := b } = f c

section Lasting

variable {δ : Type} {f : MySQL.Connection → δ}

omit [Libraries] in
theorem leaves_onInner {α : Type} {x : Proc Error MySQL.Connection α} (hx : x.Leaves f) :
    (onInner x).Leaves fun c => f c.inner := by
  intro c
  have h := hx c.inner
  rw [onInner_apply]
  cases hi : x c.inner
  all_goals
    rw [hi] at h
    exact h

namespace Lasting

variable (hf : Lasting f)

include hf

omit [Libraries] in
theorem onStream {α : Type} (x : Proc Error PacketStream α) :
    (MySQL.Connection.onStream x).Leaves f :=
  .zoom x fun c s => hf.stream c s

omit [Libraries] in
theorem forceClose (c : MySQL.Connection) : f c.forceClose = f c :=
  (hf.closed (c.setStream c.packetStream.forceClose) true).trans (hf.stream c _)

omit [Libraries] in
theorem writeAll (data : Bytes) : (writeAll data).Leaves fun c => f c.inner := by
  intro c
  rw [Connection.writeAll]
  split
  case h_1 => rfl
  case h_2 =>
    split
    case h_1 => exact hf.forceClose c.inner
    case h_2 => rfl

omit [Libraries] in
theorem flush : flush.Leaves fun c => f c.inner := by
  intro c
  rw [Connection.flush]
  split
  case h_1 => rfl
  case h_2 =>
    split
    case h_1 => exact hf.forceClose c.inner
    case h_2 => rfl

omit [Libraries] in
theorem writeQueue (queue : List Bytes) : (writeQueue queue).Leaves fun c => f c.inner := by
  induction queue
  case nil            => exact .pure ()
  case cons data _ ih =>
    exact .bind (.modify fun c => hf.stream c.inner _) fun _ => .bind (hf.writeAll data) fun _ => ih

omit [Libraries] in
theorem pumpWrite : pumpWrite.Leaves fun c => f c.inner :=
  .bind .get fun _ => .bind (hf.writeQueue _) fun _ => hf.flush

theorem pumpRead : pumpRead.Leaves fun c => f c.inner := by
  have feed {data : Bytes} {c : MySQL.Connection} {o : Outcome Error MySQL.Connection Nat}
      (h : c.feedBytes data = o) : f o.state = f c :=
    h ▸ hf.onStream _ c
  intro c
  fun_induction Connection.pumpRead c
  case case1 | case2 | case3 | case4 => first | rfl | exact hf.forceClose _
  case case5 hx _ _    => exact feed hx
  case case6 hx _ _ ih => exact ih.trans (feed hx)
  case case7 hx        => exact feed hx
  case case8 hx        => exact feed hx

theorem readPacket : readPacket.Leaves fun c => f c.inner := by
  have read {c : MySQL.Connection} {o : Outcome Error MySQL.Connection MysqlPacket}
      (h : c.readPacket = o) : f o.state = f c :=
    h ▸ hf.onStream _ c
  have pump {c : Connection} {o : Outcome Error Connection Unit} (h : Connection.pumpRead c = o) :
      f o.state.inner = f c.inner :=
    h ▸ hf.pumpRead c
  intro c
  fun_induction Connection.readPacket c
  case case1 hx       => exact read hx
  case case2 hp ih    => exact ih.trans (pump hp)
  case case3 hp       => exact pump hp
  case case4 hp       => exact pump hp
  case case5 hx       => exact read hx
  case case6 hx       => exact read hx

end Lasting
end Lasting

end Connection
end MySQL.Tokio
