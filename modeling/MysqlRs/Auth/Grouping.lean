import MysqlRs.Auth.Upgrade
import MysqlRs.Framing.Frames

namespace MySQL

open PacketStream (plainPackets)

namespace Connection

-- The same connection but for what is on its way in or out.
def Akin (c d : Connection) : Prop :=
  ∃ out buffer queue, d = c.setStream {
    c.packetStream with sendQueue := out, recvBuffer := buffer, recvQueue := queue }

-- What a step of the machine leaves alone.
def inbound (s : PacketStream) : Bytes × Bytes × List MysqlPacket × UInt64 × Bool :=
  (s.recvBuffer, s.decompressedBuffer, s.recvQueue, s.maxAllowedPacket, s.compressed)

-- The packet has come in on its own, with the sequence number that is due.
def heard (p : Bytes) (c : Connection) : Connection :=
  c.setStream {
    c.packetStream with
    sendQueue := []
    recvBuffer := []
    recvQueue := [.new p]
    nextSeqId := (plainPackets c.packetStream.nextSeqId p).2
  }

theorem Akin.refl (c : Connection) : Akin c c :=
  ⟨_, _, _, rfl⟩

theorem Akin.heard {c d : Connection} (h : Akin c d) (p : Bytes) : c.heard p = d.heard p := by
  obtain ⟨_, _, _, rfl⟩ := h
  rfl

theorem Akin.seq {c d : Connection} (h : Akin c d) :
    d.packetStream.nextSeqId = c.packetStream.nextSeqId := by
  obtain ⟨_, _, _, rfl⟩ := h
  rfl

section

variable [Host]

-- No machine goes on after an error packet.
theorem reaction_error {c : Connection} {packet : MysqlPacket} (h : packet.isErrorPacket) :
    ∃ e, (reaction c packet).2 = .fail e := by
  have hd : packet.data.head? = some 0xFF := of_decide_eq_true h
  have hs : ¬packet.isAuthSwitchRequest := by simp [MysqlPacket.isAuthSwitchRequest, hd]
  have hx : ¬packet.isExtraAuthData := by simp [MysqlPacket.isExtraAuthData, hd]
  have ho : ¬packet.isOkPacket := by simp [MysqlPacket.isOkPacket, hd]
  rw [reaction]
  cases c.authPhase
  case initial                => simp [initialReply, hs, hx, h]
  case cachingSha2FastSuccess => simp [fastSuccessReply, ho]
  case cachingSha2PublicKey   => simp [publicKeyReply, h]
  case sha256Password         => simp [sha256Reply, h]

end

variable [Libraries] [Crypto] [Host] {c d c' : Connection} {st : AuthState} {p : MysqlPacket}
  {ps qs : List MysqlPacket}

-- A step of the machine, on connections that only differ in what is on its way.
theorem requestAuthenticationContinue_akin (h : Akin c d) (hp : c.packetStream.compressed = false)
    (hc : c.packetStream.recvQueue = p :: ps) (hd : d.packetStream.recvQueue = p :: qs)
    (hs : requestAuthenticationContinue c = .ok st c') :
    ∃ d', requestAuthenticationContinue d = .ok st d' ∧ Akin c' d' ∧
      inbound d'.packetStream = inbound { d.packetStream with recvQueue := qs } := by
  obtain ⟨out, buffer, queue, rfl⟩ := h
  have hq : queue = p :: qs := hd
  subst hq
  rw [requestAuthenticationContinue_eq c p hc, reaction_setStream] at hs
  rw [requestAuthenticationContinue_eq _ p hd, setStream_setStream, reaction_setStream]
  generalize reaction c p = x at hs
  obtain ⟨c₁, r⟩ := x
  cases r
  case fail    => cases hs
  case success =>
    obtain ⟨rfl, rfl⟩ := Outcome.ok.inj hs
    exact ⟨_, rfl, ⟨_, _, _, rfl⟩, rfl⟩
  case wait    =>
    obtain ⟨rfl, rfl⟩ := Outcome.ok.inj hs
    exact ⟨_, rfl, ⟨_, _, _, rfl⟩, rfl⟩
  case send credential phase =>
    simp only [perform, setStream_options] at hs ⊢
    cases hd : credential.data c₁.options.password
    case error =>
      rw [hd] at hs
      cases hs
    case ok data =>
      rw [hd] at hs
      have hp₁ : (c₁.setStream { c.packetStream with recvQueue := ps }).packetStream.compressed = false := hp
      have hp₂ : (c₁.setStream { c.packetStream with
        sendQueue := out, recvBuffer := buffer, recvQueue := qs }).packetStream.compressed = false := hp
      simp only [sendAuthData_plain hp₁] at hs
      obtain ⟨rfl, rfl⟩ := Outcome.ok.inj hs
      exact ⟨_, sendAuthData_plain hp₂ _ _, ⟨_, _, _, rfl⟩, rfl⟩

theorem requestAuthenticationContinue_inbound (hp : c.packetStream.compressed = false)
    (hc : c.packetStream.recvQueue = p :: ps) (hs : requestAuthenticationContinue c = .ok st c') :
    inbound c'.packetStream = inbound { c.packetStream with recvQueue := ps } := by
  have ⟨_, h, _, hi⟩ := requestAuthenticationContinue_akin (.refl c) hp hc hc hs
  obtain ⟨_, rfl⟩ := Outcome.ok.inj (hs.symm.trans h)
  exact hi

-- The packets, with the sequence numbers that are due, take the machine from `c` to success at `y`. Each
-- of them comes in alone.
inductive Drives : List (UInt8 × Bytes) → Connection → Connection → Prop
  | last {p : Bytes} {c y : Connection} :
    requestAuthenticationContinue (c.heard p) = .ok .success y →
    Drives [(c.packetStream.nextSeqId, p)] c y
  | next {p : Bytes} {fs : List (UInt8 × Bytes)} {st : AuthState} {c c' y : Connection} :
    requestAuthenticationContinue (c.heard p) = .ok st c' → st ≠ .success → Drives fs c' y →
    Drives ((c.packetStream.nextSeqId, p) :: fs) c y

theorem Drives.akin {fs : List (UInt8 × Bytes)} {y : Connection} (h : Drives fs c y) (ha : Akin c d) :
    Drives fs d y := by
  cases h
  case last hs      => exact ha.seq ▸ .last (ha.heard _ ▸ hs)
  case next hn hs h => exact ha.seq ▸ .next (ha.heard _ ▸ hs) hn h

theorem heard_noError {p : Bytes} (h : requestAuthenticationContinue (c.heard p) = .ok st c') :
    ¬(MysqlPacket.new p).isErrorPacket := by
  intro he
  have hq : (c.heard p).packetStream.recvQueue = [.new p] := rfl
  rw [requestAuthenticationContinue_eq _ _ hq] at h
  have ⟨e, hr⟩ := reaction_error (c := (c.heard p).setStream { (c.heard p).packetStream with recvQueue := [] }) he
  generalize reaction _ _ = x at h hr
  obtain ⟨_, r⟩ := x
  obtain rfl := hr
  exact nomatch h

end Connection

namespace Tokio.Connection

open Staged
open MySQL.Connection (Akin Drives Greeted inbound heard_noError)
open PacketStream (frames payloads framedLen frameLen arrived CleanCut Front)

-- No read completes more than one of the payloads, when `n` bytes of them are there already.
def OneByOne (ps : List Bytes) : Nat → List Bytes → Prop
  | _, []      => True
  | n, d :: ds => arrived ps (n + d.length) ≤ arrived ps n + 1 ∧ OneByOne ps (n + d.length) ds

instance OneByOne.decidable (ps : List Bytes) : (n : Nat) → (ds : List Bytes) → Decidable (OneByOne ps n ds)
  | _, []      => .isTrue trivial
  | n, d :: ds =>
    have := OneByOne.decidable ps (n + d.length) ds
    inferInstanceAs (Decidable (_ ∧ _))

-- Positions after the first `k` payloads, counted from the end of those.
theorem oneByOne_drop {ps : List Bytes} {k : Nat} (hk : k ≤ ps.length) (n : Nat) (ds : List Bytes) :
    OneByOne ps (framedLen (ps.take k) + n) ds ↔ OneByOne (ps.drop k) n ds := by
  induction ds generalizing n
  case nil          => rfl
  case cons d ds ih =>
    rw [OneByOne, OneByOne, Nat.add_assoc, PacketStream.arrived_drop hk, PacketStream.arrived_drop hk, ih,
      Nat.add_assoc, Nat.add_le_add_iff_left]

-- The socket brings what is missing of the framed payloads in the reads `pieces`. None of these ends
-- between a full fragment and the rest of its payload.
structure Wired (queue : List MysqlPacket) (fs : List (UInt8 × Bytes)) (pieces : List Bytes)
    (c : Connection) : Prop where
  plain    : c.inner.packetStream.compressed = false
  inflated : c.inner.packetStream.decompressedBuffer = []
  queued   : c.inner.packetStream.recvQueue = queue
  bytes    : c.inner.packetStream.recvBuffer ++ pieces.flatten = frames fs
  fits     : ∀ p ∈ payloads fs, p.length ≤ c.inner.packetStream.maxAllowedPacket.toNat
  front    : Front c.inner.packetStream.recvBuffer (payloads fs)
  clean    : ∀ k, CleanCut (payloads fs)
    (c.inner.packetStream.recvBuffer.length + (pieces.take k).flatten.length)
  nonempty : [] ∉ pieces
  socket   : ∃ st, c.stream = some st ∧ st.incoming = pieces.map .ok ∧ st.answers = [] ∧ st.broken = none

section

variable {queue : List MysqlPacket} {fs : List (UInt8 × Bytes)} {pieces : List Bytes} {c : Connection}
  {p : Bytes}

theorem setSocket_self {st : ConnectionStream} (hs : c.stream = some st) : c.setSocket st = c := by
  obtain ⟨_, stream, _⟩ := c
  obtain rfl : stream = some st := hs
  rfl

theorem Wired.of_written {st : ConnectionStream} (h : Wired queue fs pieces c)
    (hs : c.stream = some st) (out : List Bytes) (w : Bytes) :
    Wired queue fs pieces ((c.setSendQueue out).setSocket { st with written := w }) := by
  have ⟨st', hs', hi, ha, hb⟩ := h.socket
  obtain rfl := Option.some.inj (hs.symm.trans hs')
  exact ⟨h.plain, h.inflated, h.queued, h.bytes, h.fits, h.front, h.clean, h.nonempty, _, rfl, hi, ha, hb⟩

theorem Wired.flush (h : Wired queue fs pieces c) : flush c = .ok () c := by
  have ⟨st, hs, _, ha, hb⟩ := h.socket
  have hst : c.setSocket st = c := setSocket_self hs
  rw [Connection.flush]
  simp only [hs, hb, ha, List.headD_nil, List.append_nil, List.tail_nil]
  exact congrArg _ ((congrArg c.setSocket (by rw [← ha, ← hb])).trans hst)

-- Writing brings nothing in here.
theorem Wired.write (h : Wired queue fs pieces c) :
    ∃ c', pumpWrite c = .ok () c' ∧ Wired queue fs pieces c' ∧ Akin c.inner c'.inner ∧
      c'.inner.packetStream.recvBuffer = c.inner.packetStream.recvBuffer := by
  have ⟨st, hs, hi, ha, hb⟩ := h.socket
  have hw : writeQueue c.inner.packetStream.sendQueue c = _ := writeQueue_ok hs hb c.inner.packetStream.sendQueue
  have h' := h.of_written hs [] (st.written ++ c.inner.packetStream.sendQueue.flatten)
  refine ⟨_, ?_, h', ⟨_, _, _, rfl⟩, rfl⟩
  rw [pumpWrite, Proc.bind_apply, Proc.get_apply, Outcome.bind_ok, Proc.bind_apply, hw, Outcome.bind_ok,
    h'.flush]

theorem Wired.of_inbound {c' : Connection} {queue' : List MysqlPacket} (h : Wired queue fs pieces c)
    (hi : inbound c'.inner.packetStream = inbound { c.inner.packetStream with recvQueue := queue' })
    (hs : c'.stream = c.stream) : Wired queue' fs pieces c' := by
  have hb : c'.inner.packetStream.recvBuffer = c.inner.packetStream.recvBuffer := congrArg (·.1) hi
  have hm : c'.inner.packetStream.maxAllowedPacket = c.inner.packetStream.maxAllowedPacket :=
    congrArg (·.2.2.2.1) hi
  exact {
    plain := (congrArg (·.2.2.2.2) hi).trans h.plain
    inflated := (congrArg (·.2.1) hi).trans h.inflated
    queued := congrArg (·.2.2.1) hi
    bytes := hb ▸ h.bytes
    fits := hm ▸ h.fits
    front := hb ▸ h.front
    clean := hb ▸ h.clean
    nonempty := h.nonempty
    socket := hs ▸ h.socket
  }

theorem Wired.finished (h : Wired queue [] pieces c) : pieces = [] ∧ c.incoming = [] := by
  have ⟨st, hs, hi, _⟩ := h.socket
  have hp : pieces = [] := by
    have hf := List.flatten_eq_nil_iff.mp (List.append_eq_nil_iff.mp h.bytes).right
    exact List.eq_nil_iff_forall_not_mem.mpr fun d hd => h.nonempty (hf d hd ▸ hd)
  exact ⟨hp, by rw [incoming, hs, Option.map_some, Option.getD_some, hi, hp, List.map_nil]⟩

theorem Wired.unfinished {seq : UInt8} (h : Wired [] ((seq, p) :: fs) pieces c) : pieces ≠ [] := by
  intro hp
  have hf := h.front
  have hb := congrArg List.length h.bytes
  have hl := PacketStream.frames_length ((seq, p) :: fs)
  have := PacketStream.firstFragmentLen_le p
  simp only [Front, payloads, List.map_cons, framedLen, List.sum_cons, hp, List.flatten_nil,
    List.append_nil] at hf hb hl
  omega

variable [Libraries]

omit [Libraries] in
-- What a read leaves when it is parsed without an error.
theorem Wired.advance {d b : Bytes} {ds : List Bytes} {st : ConnectionStream} {s : PacketStream} {m : Nat}
    (h : Wired [] fs (d :: ds) c) (hs : c.stream = some st)
    (hok : PacketStream.parsePlainPackets (c.inner.packetStream.recvBuffer ++ d) 0
      { c.inner.packetStream with recvBuffer := [] } = .ok (m, b) s) :
    let k := arrived (payloads fs) (c.inner.packetStream.recvBuffer ++ d).length
    let inner := c.inner.setStream { s with recvBuffer := b }
    m = k ∧ (c.inner.packetStream.recvBuffer ++ d).length = framedLen ((payloads fs).take k) + b.length ∧
      Wired (((payloads fs).take k).map .new) (fs.drop k) ds
        ((c.setSocket { st with incoming := ds.map .ok }).setInner inner) := by
  have ⟨st', hs', _, ha, hb⟩ := h.socket
  obtain rfl := Option.some.inj (hs.symm.trans hs')
  have hbytes := h.bytes
  rw [List.flatten_cons, ← List.append_assoc] at hbytes
  have hclean (j : Nat) : CleanCut (payloads fs)
      ((c.inner.packetStream.recvBuffer ++ d).length + (ds.take j).flatten.length) := by
    have := h.clean (j + 1)
    rwa [List.take_succ_cons, List.flatten_cons, List.length_append, ← Nat.add_assoc,
      ← List.length_append] at this
  have ⟨hm, h₁, h₂, h₃, _, h₄⟩ := PacketStream.parsePlainPackets_frames
    (s := { c.inner.packetStream with recvBuffer := [] }) hbytes h.fits (by simpa using hclean 0) hok
  intro k inner
  refine ⟨by omega, h₃, ?_⟩
  subst h₄
  have hdrop : payloads (fs.drop k) = (payloads fs).drop k := List.map_drop
  exact {
    plain := h.plain
    inflated := h.inflated
    queued := by
      change c.inner.packetStream.recvQueue ++ _ = _
      rw [h.queued, List.nil_append]
    bytes := h₁
    fits := fun p hp => h.fits p (List.mem_of_mem_drop (hdrop ▸ hp))
    front := h₂
    clean := fun j => by
      have := hclean j
      rwa [h₃, Nat.add_assoc, PacketStream.cleanCut_drop, ← hdrop] at this
    nonempty := fun hn => h.nonempty (List.mem_cons_of_mem _ hn)
    socket := ⟨_, rfl, rfl, ha, hb⟩
  }

-- One round of reading: it gets the next packet alone, or a read completes more than one.
theorem Wired.read (h : Wired [] ((c.inner.packetStream.nextSeqId, p) :: fs) pieces c)
    (he : ¬(MysqlPacket.new p).isErrorPacket) :
    let before := OneByOne (p :: payloads fs) c.inner.packetStream.recvBuffer.length pieces
    (∃ c' pieces', pumpRead c = .ok () c' ∧ Wired [.new p] fs pieces' c' ∧
      Akin (c.inner.heard p) c'.inner ∧
      (before ↔ OneByOne (payloads fs) c'.inner.packetStream.recvBuffer.length pieces')) ∨
    (¬before ∧ ∀ c', pumpRead c = .ok () c' →
      ∃ p₁ p₂ ps fs' pieces', Wired (p₁ :: p₂ :: ps) fs' pieces' c') := by
  induction pieces generalizing c
  case nil          => exact absurd rfl h.unfinished
  case cons d ds ih =>
    have ⟨st, hs, hi, ha, hb⟩ := h.socket
    have hd : d ≠ [] := fun hd => h.nonempty (hd ▸ List.mem_cons_self)
    have hbytes := h.bytes
    rw [List.flatten_cons, ← List.append_assoc] at hbytes
    have hclean := h.clean 1
    simp only [List.take_succ_cons, List.take_zero, List.flatten_cons, List.flatten_nil, List.append_nil,
      ← List.length_append] at hclean
    rw [pumpRead_data hs hi hd, MySQL.Connection.feedBytes, MySQL.Connection.onStream_apply,
      PacketStream.feedBytes_plain h.plain h.inflated]
    have advance {m b s} := h.advance (m := m) (b := b) (s := s) hs
    have hf : arrived (p :: payloads fs) c.inner.packetStream.recvBuffer.length = 0 :=
      PacketStream.arrived_front h.front
    intro before
    have hbefore : before ↔ arrived (p :: payloads fs) (c.inner.packetStream.recvBuffer ++ d).length ≤ 1 ∧
        OneByOne (p :: payloads fs) (c.inner.packetStream.recvBuffer ++ d).length ds := by
      simp only [before, OneByOne, hf, List.length_append]
    have advance {m : Nat} {b : Bytes} {s : PacketStream} (hok : PacketStream.parsePlainPackets
        (c.inner.packetStream.recvBuffer ++ d) 0 { c.inner.packetStream with recvBuffer := [] } = .ok (m, b) s) {k : Nat}
        (hk : arrived (p :: payloads fs) (c.inner.packetStream.recvBuffer ++ d).length = k) :
        m = k ∧
        (c.inner.packetStream.recvBuffer ++ d).length = framedLen ((p :: payloads fs).take k) + b.length ∧
        Wired (((p :: payloads fs).take k).map .new) (((c.inner.packetStream.nextSeqId, p) :: fs).drop k) ds
          ((c.setSocket { st with incoming := ds.map .ok }).setInner
            (c.inner.setStream { s with recvBuffer := b })) := by
      subst hk
      exact h.advance hs hok
    match hk : arrived (p :: payloads fs) (c.inner.packetStream.recvBuffer ++ d).length with
    | 0     =>
      have hfront := PacketStream.front_of_frames hbytes hclean hk
      have hok := PacketStream.parsePlainPackets_stuck (s := { c.inner.packetStream with recvBuffer := [] })
        0 (PacketStream.stuck_of_frames hbytes h.fits hfront)
      have ⟨_, _, hw⟩ := advance hok hk
      rw [hk] at hbefore
      rw [hok, hbefore, and_iff_right (Nat.zero_le 1)]
      exact ih hw
    | 1     =>
      have ⟨b, hok⟩ := PacketStream.parsePlainPackets_frame
        (s := { c.inner.packetStream with recvBuffer := [] }) 0 hbytes h.fits hclean hk he
      have ⟨_, hl, hw⟩ := advance hok hk
      rw [hk] at hbefore
      rw [hok, hbefore, and_iff_right (Nat.le_refl 1), hl,
        oneByOne_drop (Nat.le_add_left 1 (payloads fs).length)]
      exact .inl ⟨_, ds, rfl, hw, ⟨_, _, _, rfl⟩, .rfl⟩
    | k + 2 =>
      rw [hk] at hbefore
      refine .inr ⟨by rw [hbefore]; omega, fun c' hr => ?_⟩
      cases hok : PacketStream.parsePlainPackets (c.inner.packetStream.recvBuffer ++ d) 0
        { c.inner.packetStream with recvBuffer := [] }
      case ok r s =>
        obtain ⟨m, b⟩ := r
        have ⟨hm, _, hw⟩ := advance hok hk
        rw [hok] at hr
        simp only [Outcome.bind_ok, Outcome.mapState_ok, hm, Nat.zero_lt_succ, if_true] at hr
        obtain ⟨_, rfl⟩ := Outcome.ok.inj hr
        have hle := PacketStream.arrived_le (p :: payloads fs) (c.inner.packetStream.recvBuffer ++ d).length
        obtain ⟨p₂, ps, hp⟩ : ∃ p₂ ps, payloads fs = p₂ :: ps := by
          refine List.exists_cons_of_ne_nil fun hn => ?_
          rw [hk, hn, List.length_singleton] at hle
          omega
        rw [hp] at hw
        exact ⟨_, _, _, _, _, hw⟩
      all_goals
        rw [hok] at hr
        exact nomatch hr

variable [Crypto] [Host] {y : MySQL.Connection}

-- The machine takes the packet that has been read.
theorem Wired.react {c₀ x : MySQL.Connection} {state : AuthState} (h : Wired [.new p] fs pieces c)
    (ha : Akin (c₀.heard p) c.inner)
    (hs : MySQL.Connection.requestAuthenticationContinue (c₀.heard p) = .ok state x) :
    ∃ c', onInner MySQL.Connection.requestAuthenticationContinue c = .ok state c' ∧
      Wired [] fs pieces c' ∧ Akin x c'.inner ∧
      c'.inner.packetStream.recvBuffer = c.inner.packetStream.recvBuffer := by
  have hp : (c₀.heard p).packetStream.compressed = false := by
    obtain ⟨_, _, _, hi⟩ := ha
    exact (congrArg (·.packetStream.compressed) hi).symm.trans h.plain
  have ⟨d, hd, hx, hin⟩ :=
    MySQL.Connection.requestAuthenticationContinue_akin ha hp rfl h.queued hs
  exact ⟨c.setInner d, by rw [onInner_apply, hd]; rfl, h.of_inbound hin rfl, hx, congrArg (·.1) hin⟩

-- One round of the loop: the next packet takes the machine on, or a read completes more than one.
theorem Wired.round {f : UInt8 × Bytes} (h : Wired [] (f :: fs) pieces c)
    (hd : Drives (f :: fs) c.inner y) :
    let before := OneByOne (payloads (f :: fs)) c.inner.packetStream.recvBuffer.length pieces
    (∃ c₁ state c₂, pumpRead c = .ok () c₁ ∧
      onInner MySQL.Connection.requestAuthenticationContinue c₁ = .ok state c₂ ∧
      c₂.inner.packetStream.recvQueue = [] ∧
      (state = .success ∧ before ∧ Akin y c₂.inner ∧ c₂.incoming = [] ∨
        state ≠ .success ∧ ∃ pieces', Wired [] fs pieces' c₂ ∧ Drives fs c₂.inner y ∧
          (before ↔ OneByOne (payloads fs) c₂.inner.packetStream.recvBuffer.length pieces'))) ∨
    (¬before ∧ ∀ c', pumpRead c = .ok () c' →
      ∃ p₁ p₂ ps fs' pieces', Wired (p₁ :: p₂ :: ps) fs' pieces' c') := by
  cases hd
  case last p hs =>
    refine (h.read (heard_noError hs)).imp_left fun ⟨c₁, pieces', hr, hw, hh, hb⟩ => ?_
    have ⟨c₂, hc, hw', hx, _⟩ := hw.react hh hs
    refine ⟨c₁, .success, c₂, hr, hc, hw'.queued, .inl ⟨rfl, hb.mpr ?_, hx, (hw'.finished).right⟩⟩
    rw [hw.finished.left]
    trivial
  case next p state x hn hs hd =>
    refine (h.read (heard_noError hs)).imp_left fun ⟨c₁, pieces', hr, hw, hh, hb⟩ => ?_
    have ⟨c₂, hc, hw', hx, hbuf⟩ := hw.react hh hs
    refine ⟨c₁, state, c₂, hr, hc, hw'.queued, .inr ⟨hn, pieces', hw', hd.akin hx, ?_⟩⟩
    rw [hbuf]
    exact hb

-- The reads bring the packets one by one: the loop gets through them.
theorem Wired.succeeds (h : Wired [] fs pieces c) (hd : Drives fs c.inner y)
    (ho : OneByOne (payloads fs) c.inner.packetStream.recvBuffer.length pieces) :
    ∃ c', authLoop .needRead c = .ok () c' ∧ Akin y c'.inner ∧ c'.inner.packetStream.recvQueue = [] ∧
      c'.incoming = [] := by
  induction fs generalizing c pieces
  case nil          => exact nomatch hd
  case cons f fs ih =>
    obtain ⟨c₁, state, c₂, hr, hc, hq, ⟨rfl, _, hy, hi⟩ | ⟨hn, pieces', hw, hd, hb⟩⟩ | ⟨hn, _⟩ := h.round hd
    · refine ⟨c₂, ?_, hy, hq, hi⟩
      simp only [authLoop_needRead, Proc.bind_apply, hr, hc, Outcome.bind_ok, authLoop_success]
    · have ho := hb.mp ho
      rw [authLoop_needRead]
      simp only [Proc.bind_apply, hr, hc, Outcome.bind_ok]
      cases state
      case success  => exact absurd rfl hn
      case needRead => exact ih hw hd ho
      case send     =>
        have ⟨c₃, hp, hw, hx, hbuf⟩ := hw.write
        rw [authLoop_send, Proc.bind_apply, hp]
        exact ih hw (hd.akin hx) (hbuf ▸ ho)
    · exact absurd ho hn

variable [Tls]

-- The packets come one by one from here on.
def Steady (y : MySQL.Connection) (c : Connection) : Prop :=
  ∃ fs pieces, Wired [] fs pieces c ∧ Drives fs c.inner y ∧
    OneByOne (payloads fs) c.inner.packetStream.recvBuffer.length pieces

-- Then nothing is left over at any stage of the loop.
inductive Calm (y : MySQL.Connection) : Stage → Connection → Prop
  | loop {state : AuthState} {c : Connection} : (state ≠ .success → Steady y c) → Calm y (.loop state) c
  | write {c : Connection} : Steady y c → Calm y (.write (.loop .needRead)) c
  | received {state : AuthState} {c c' : Connection} :
    onInner MySQL.Connection.requestAuthenticationContinue c = .ok state c' →
    (state ≠ .success → Steady y c') → Calm y .received c

theorem Calm.step {k k' : Stage} {c' : Connection} (h : Calm y k c) (hs : authStage k c = .ok k' c') :
    Calm y k' c' := by
  cases h
  case loop state h =>
    cases state
    case success  =>
      obtain ⟨rfl, rfl⟩ := Outcome.ok.inj hs
      exact .loop h
    case send     =>
      obtain ⟨rfl, rfl⟩ := Outcome.ok.inj hs
      exact .write (h (by rintro ⟨⟩))
    case needRead =>
      obtain ⟨fs, pieces, hw, hd, ho⟩ := h (by rintro ⟨⟩)
      cases fs
      case nil       => cases hd
      case cons f fs =>
        obtain ⟨c₁, state, c₂, hr, hc, _, hnext⟩ | ⟨hn, _⟩ := hw.round hd
        · simp only [authStage, Proc.bind_apply, hr, Outcome.bind_ok] at hs
          obtain ⟨rfl, rfl⟩ := Outcome.ok.inj hs
          refine .received hc fun hn => ?_
          obtain ⟨_, pieces', hw, hd, hb⟩ := hnext.resolve_left fun h => hn h.left
          exact ⟨fs, pieces', hw, hd, hb.mp ho⟩
        · exact absurd ho hn
  case write h =>
    obtain ⟨fs, pieces, hw, hd, ho⟩ := h
    cases hq : c.inner.packetStream.sendQueue
    case nil =>
      rw [authStage_write_nil hq, hw.flush] at hs
      obtain ⟨rfl, rfl⟩ := Outcome.ok.inj hs
      exact .loop fun _ => ⟨fs, pieces, hw, hd, ho⟩
    case cons data queue =>
      rw [authStage_write_cons hq] at hs
      cases hd' : writeAll data (c.setSendQueue queue)
      case ok =>
        rw [hd'] at hs
        obtain ⟨rfl, rfl⟩ := Outcome.ok.inj hs
        obtain ⟨st, hst, hc⟩ := writeAll_ok hd'
        subst hc
        exact .write ⟨fs, pieces, hw.of_written hst _ _, hd.akin ⟨_, _, _, rfl⟩, ho⟩
      all_goals
        rw [hd'] at hs
        cases hs
  case received state c₁ h hc =>
    simp only [authStage, Proc.bind_apply, hc, Outcome.bind_ok] at hs
    obtain ⟨rfl, rfl⟩ := Outcome.ok.inj hs
    exact .loop h

-- Where no packet is left over, the packets come one by one.
theorem Wired.one_by_one {c' : Connection} (h : Wired [] fs pieces c) (hd : Drives fs c.inner y)
    (hl : authLoop .needRead c = .ok () c') (hq : c'.inner.packetStream.recvQueue = [])
    (hr : ∀ c', Reaches authStage (.loop .needRead) c (.loop .needRead) c' →
      c'.inner.packetStream.recvQueue = []) :
    OneByOne (payloads fs) c.inner.packetStream.recvBuffer.length pieces := by
  induction fs generalizing c pieces
  case nil          => cases hd
  case cons f fs ih =>
    rw [authLoop_needRead, Proc.bind_apply] at hl
    obtain ⟨_, c₁, hp, hl⟩ := Outcome.bind_eq_ok.mp hl
    obtain ⟨state, c₂, hc, hl⟩ := Outcome.bind_eq_ok.mp hl
    have hr₁ : Reaches authStage (.loop .needRead) c .received c₁ :=
      .step .start (by rw [authStage, Proc.bind_apply, hp]; rfl)
    have hr₂ : Reaches authStage (.loop .needRead) c (.loop state) c₂ :=
      .step hr₁ (by rw [authStage, Proc.bind_apply, hc]; rfl)
    have hwrite (hs : state = .send) {c₃ : Connection} (hp : pumpWrite c₂ = .ok () c₃) :
        Reaches authStage (.loop .needRead) c (.loop .needRead) c₃ := by
      subst hs
      exact (carryOut_pumpWrite (.loop .needRead) c₂ (.step hr₂ rfl)).left () c₃ hp
    obtain ⟨_, _, _, hp', hc', _, hnext⟩ | ⟨_, hmany⟩ := h.round hd
    · obtain ⟨_, rfl⟩ := Outcome.ok.inj (hp.symm.trans hp')
      obtain ⟨rfl, rfl⟩ := Outcome.ok.inj (hc.symm.trans hc')
      obtain ⟨_, ho, _⟩ | ⟨hn, pieces', hw, hd, hb⟩ := hnext
      · exact ho
      · refine hb.mpr ?_
        cases state
        case success  => exact absurd rfl hn
        case needRead => exact ih hw hd hl fun c' hc => hr c' (hr₂.trans hc)
        case send     =>
          obtain ⟨c₃, hp, hw, hx, hbuf⟩ := hw.write
          rw [authLoop_send, Proc.bind_apply, hp] at hl
          exact hbuf ▸ ih hw (hd.akin hx) hl fun c' hc => hr c' ((hwrite rfl hp).trans hc)
    · obtain ⟨p₁, p₂, ps, fs', pieces', hw⟩ := hmany c₁ hp
      have hw : Wired (p₂ :: ps) fs' pieces' c₂ := by
        rw [onInner_apply] at hc
        cases hd : MySQL.Connection.requestAuthenticationContinue c₁.inner
        case ok =>
          rw [hd] at hc
          obtain ⟨rfl, rfl⟩ := Outcome.ok.inj hc
          exact hw.of_inbound
            (MySQL.Connection.requestAuthenticationContinue_inbound hw.plain hw.queued hd) rfl
        all_goals
          rw [hd] at hc
          cases hc
      cases state
      case success  =>
        rw [authLoop_success] at hl
        obtain ⟨_, rfl⟩ := Outcome.ok.inj hl
        cases hw.queued.symm.trans hq
      case needRead => cases hw.queued.symm.trans (hr c₂ hr₂)
      case send     =>
        obtain ⟨c₃, hp, hw, _⟩ := hw.write
        cases hw.queued.symm.trans (hr c₃ (hwrite rfl hp))

-- Through the reads `pieces` the packets `fs` come in, which take the machine to success at `y`. The driver
-- gets there too, and has then used up what came in, without reading while it has a packet left, if and only
-- if no read completes more than one packet: it reads before every step, even where the next packet is there
-- already.
theorem authenticate_grouped {c₀ : Connection} (hc : Reaches authStage .start c₀ (.loop .needRead) c)
    (h : Wired [] fs pieces c) (hd : Drives fs c.inner y) :
    ((∃ c', authenticate c₀ = .ok () c' ∧ Akin y c'.inner ∧ c'.inner.packetStream.recvQueue = [] ∧
        c'.incoming = []) ∧
      ∀ c', Reaches authStage (.loop .needRead) c (.loop .needRead) c' →
        c'.inner.packetStream.recvQueue = []) ↔
      OneByOne (payloads fs) c.inner.packetStream.recvBuffer.length pieces := by
  have ha : authenticate c₀ = authLoop .needRead c := rest_of_reaches hc
  rw [ha]
  constructor
  · intro ⟨⟨c', hl, _, hq, _⟩, hr⟩
    exact h.one_by_one hd hl hq hr
  · intro ho
    refine ⟨h.succeeds hd ho, fun c' hr => ?_⟩
    have hi := hr.invariant (I := Calm y) (.loop fun _ => ⟨fs, pieces, h, hd, ho⟩) fun hi hs => hi.step hs
    cases hi
    case loop hs =>
      have ⟨_, _, hw, _⟩ := hs nofun
      exact hw.queued

end

section Examples

attribute [local instance] Libraries.utf8Only Crypto.transparent Host.initProcess Tls.transparent

def openOptions : ConnectOptions where
  user := ['u']
  sslMode := .disabled

-- The greeting of a server that asks for caching_sha2_password.
def fastGreeting : Bytes :=
  [10, 56, 0, 1, 0, 0, 0] ++ MySQL.greetingSalt.take 8 ++ [0, 0, 0x80, 45, 2, 0, 8, 0, 21] ++
    List.replicate 10 0 ++ MySQL.greetingSalt.drop 8 ++ [0] ++
    Text.asBytes "caching_sha2_password".toList ++ [0]

def fastAuthSuccess : Bytes := [1, 3]

def finalOk : Bytes := [0, 0, 0, 2, 0, 0, 0]

-- The server accepts at once.
def acceptance (seq : UInt8) : List (UInt8 × Bytes) :=
  [(seq, fastAuthSuccess), (seq + 1, finalOk)]

theorem reaction_fastAuthSuccess {c : MySQL.Connection} (hp : c.authPhase = .initial)
    (hn : c.authPluginName = .cachingSha2Password) :
    MySQL.Connection.reaction c (.new fastAuthSuccess) = (c.setAuthPhase .cachingSha2FastSuccess, .wait) := by
  rw [MySQL.Connection.reaction, hp]
  change MySQL.Connection.initialReply c _ = _
  rw [MySQL.Connection.initialReply, if_neg (by decide), if_pos (by decide), hn]
  rfl

theorem reaction_finalOk {c : MySQL.Connection} (hp : c.authPhase = .cachingSha2FastSuccess) :
    MySQL.Connection.reaction c (.new finalOk) = ((c.setServerStatus 2).setAuthPhase .initial, .success) := by
  rw [MySQL.Connection.reaction, hp]
  rfl

theorem acceptance_drives {c : MySQL.Connection} (hp : c.authPhase = .initial)
    (hn : c.authPluginName = .cachingSha2Password) :
    ∃ y, Drives (acceptance c.packetStream.nextSeqId) c y := by
  have hs : (PacketStream.plainPackets c.packetStream.nextSeqId fastAuthSuccess).2 =
      c.packetStream.nextSeqId + 1 := by
    rw [PacketStream.plainPackets_short (by decide)]
  let unqueued (c : MySQL.Connection) := c.setStream { c.packetStream with recvQueue := [] }
  let d := (unqueued (c.heard fastAuthSuccess)).setAuthPhase .cachingSha2FastSuccess
  have h₁ : MySQL.Connection.requestAuthenticationContinue (c.heard fastAuthSuccess) = .ok .needRead d :=
    (MySQL.Connection.requestAuthenticationContinue_eq _ _ rfl).trans
      (congrArg MySQL.Connection.perform
        (reaction_fastAuthSuccess (c := unqueued (c.heard fastAuthSuccess)) hp hn))
  have h₂ : Drives [(d.packetStream.nextSeqId, finalOk)] d _ :=
    .last <| (MySQL.Connection.requestAuthenticationContinue_eq (d.heard finalOk) _ rfl).trans
      (congrArg MySQL.Connection.perform (reaction_finalOk (c := unqueued (d.heard finalOk)) rfl))
  rw [acceptance, ← hs]
  exact ⟨_, .next h₁ nofun h₂⟩

-- A connection that has just answered this greeting.
theorem acceptingSession (pieces : UInt8 → List Bytes) :
    ∃ inner c₀ c₁, Greeted openOptions fastGreeting inner ∧
      c₀.inner = inner.setStream { inner.packetStream with nextSeqId := 1 } ∧
      authStage .start c₀ = .ok (.write (.loop .needRead)) c₁ ∧
      c₁.stream = some ⟨(pieces c₁.inner.packetStream.nextSeqId).map .ok, [], [], none⟩ ∧
      c₁.inner.authPhase = .initial ∧ c₁.inner.authPluginName = .cachingSha2Password ∧
      c₁.inner.packetStream.recvBuffer = [] ∧ c₁.inner.packetStream.recvQueue = [] ∧
      c₁.inner.packetStream.compressed = false ∧ c₁.inner.packetStream.decompressedBuffer = [] ∧
      7 ≤ c₁.inner.packetStream.maxAllowedPacket.toNat := by
  have ⟨inner, inner₁, hg, hs, hn, hp, ha, hb, hq, hpl, hd, hm⟩ : ∃ inner inner₁,
      Greeted openOptions fastGreeting inner ∧
      MySQL.Connection.requestAuthenticationStart
        (inner.setStream { inner.packetStream with nextSeqId := 1 }) = .ok .needRead inner₁ ∧
      inner₁.needsTlsUpgrade = false ∧
      inner₁.authPhase = .initial ∧ inner₁.authPluginName = .cachingSha2Password ∧
      inner₁.packetStream.recvBuffer = [] ∧ inner₁.packetStream.recvQueue = [] ∧
      inner₁.packetStream.compressed = false ∧ inner₁.packetStream.decompressedBuffer = [] ∧
      inner₁.packetStream.maxAllowedPacket = 16777216 :=
    ⟨_, _, ⟨_, .alone 1 _, rfl, rfl, rfl⟩, rfl, rfl, rfl, rfl, rfl, rfl, rfl, rfl, rfl⟩
  let stream : ConnectionStream := ⟨(pieces inner₁.packetStream.nextSeqId).map .ok, [], [], none⟩
  let inner' := inner.setStream { inner.packetStream with nextSeqId := 1 }
  refine ⟨inner, ⟨inner', some stream, false⟩, ⟨inner₁, some stream, false⟩, hg, rfl, ?_, rfl, hp, ha, hb, hq,
    hpl, hd, by rw [hm]; decide⟩
  rw [authStage, Proc.bind_apply, onInner_apply]
  change (Outcome.mapState _ (MySQL.Connection.requestAuthenticationStart inner')).bind _ = _
  rw [hs]
  simp only [Outcome.mapState_ok, Outcome.bind_ok, Proc.bind_apply, Proc.get_apply, setInner_inner, hn]
  rfl

-- The server accepts, and its packets come in the given reads.
theorem acceptance_wired (pieces : UInt8 → List Bytes)
    (hf : ∀ seq, (pieces seq).flatten = frames (acceptance seq)) (hp : ∀ seq, [] ∉ pieces seq) :
    ∃ inner c₀ c y, Greeted openOptions fastGreeting inner ∧
      c₀.inner = inner.setStream { inner.packetStream with nextSeqId := 1 } ∧
      Reaches authStage .start c₀ (.loop .needRead) c ∧
      Wired [] (acceptance c.inner.packetStream.nextSeqId) (pieces c.inner.packetStream.nextSeqId) c ∧
      Drives (acceptance c.inner.packetStream.nextSeqId) c.inner y ∧
      c.inner.authPhase = .initial ∧ c.inner.authPluginName = .cachingSha2Password ∧
      c.inner.packetStream.recvBuffer = [] := by
  obtain ⟨inner, c₀, c₁, hg, hi, hs, hst, ha, hn, hb, hq, hpl, hd, hm⟩ := acceptingSession pieces
  have hfits : ∀ p ∈ payloads (acceptance c₁.inner.packetStream.nextSeqId), p.length ≤ 7 := by
    simp [payloads, acceptance, fastAuthSuccess, finalOk]
  have hw : Wired [] (acceptance c₁.inner.packetStream.nextSeqId)
      (pieces c₁.inner.packetStream.nextSeqId) c₁ := {
    plain := hpl
    inflated := hd
    queued := hq
    bytes := by rw [hb]; exact hf _
    fits := fun p hp => Nat.le_trans (hfits p hp) hm
    front := by rw [hb]; exact Nat.zero_lt_succ _
    clean := fun k => PacketStream.cleanCut_of_short (fun p hp =>
      Nat.lt_of_le_of_lt (hfits p hp) (by decide)) _
    nonempty := hp _
    socket := ⟨_, hst, rfl, rfl, rfl⟩
  }
  obtain ⟨y, hy⟩ := acceptance_drives ha hn
  obtain ⟨c, hc, hw', hx, hb'⟩ := hw.write
  have hr := (carryOut_pumpWrite (.loop .needRead) c₁ (.step .start hs)).left () c hc
  have hseq := hx.seq
  obtain ⟨_, _, _, hx'⟩ := hx
  refine ⟨inner, c₀, c, y, hg, hi, hr, hseq ▸ hw', hseq ▸ hy.akin ⟨_, _, _, hx'⟩, ?_, ?_, hb'.trans hb⟩
  · rw [hx']; exact ha
  · rw [hx']; exact hn

-- Each packet in a read of its own.
theorem acceptanceApart_succeeds :
    ∃ inner c₀ c', Greeted openOptions fastGreeting inner ∧
      c₀.inner = inner.setStream { inner.packetStream with nextSeqId := 1 } ∧
      authenticate c₀ = .ok () c' ∧ c'.incoming = [] := by
  obtain ⟨inner, c₀, c, y, hg, hi, hr, hw, hd, _, _, hb⟩ :=
    acceptance_wired (fun seq => [frames [(seq, fastAuthSuccess)], frames [(seq + 1, finalOk)]])
      (fun _ => by simp [frames, acceptance])
      (fun _ => by simp [Ne.symm (PacketStream.frames_ne_nil _ _)])
  have ho : OneByOne [fastAuthSuccess, finalOk] 0 [frames [(c.inner.packetStream.nextSeqId, fastAuthSuccess)],
      frames [(c.inner.packetStream.nextSeqId + 1, finalOk)]] := by
    have hl (seq : UInt8) (p : Bytes) : (frames [(seq, p)]).length = framedLen [p] :=
      PacketStream.frames_length _
    rw [OneByOne, OneByOne, OneByOne, hl, hl]
    decide
  obtain ⟨⟨c', ha, _, _, hc⟩, _⟩ := (authenticate_grouped hr hw hd).mpr (by rw [hb]; exact ho)
  exact ⟨inner, c₀, c', hg, hi, ha, hc⟩

-- Both packets in one read: authentication waits for more while the OK packet is in the queue.
theorem acceptanceTogether_waits :
    ∃ inner c₀ c fs pieces y, Greeted openOptions fastGreeting inner ∧
      c₀.inner = inner.setStream { inner.packetStream with nextSeqId := 1 } ∧
      Reaches authStage .start c₀ (.loop .needRead) c ∧ Wired [] fs pieces c ∧ Drives fs c.inner y ∧
      ∃ c', authenticate c₀ = .pending c' ∧ c'.inner.packetStream.recvQueue = [.new finalOk] := by
  obtain ⟨inner, c₀, c, y, hg, hi, hr, hw, hd, hp, hn, hb⟩ :=
    acceptance_wired (fun seq => [frames (acceptance seq)]) (fun _ => List.flatten_singleton)
      (fun _ => by simp [acceptance, Ne.symm (PacketStream.frames_ne_nil _ _)])
  refine ⟨inner, c₀, c, _, _, y, hg, hi, hr, hw, hd, ?_⟩
  obtain ⟨st, hs, hin, _⟩ := hw.socket
  have hseq (seq : UInt8) : frames (acceptance seq) = PacketStream.framed seq [fastAuthSuccess, finalOk] := by
    rw [acceptance, frames, frames, PacketStream.framed, PacketStream.framed,
      PacketStream.plainPackets_short (by decide)]
    rfl
  have hx : PacketStream.Expecting c.inner.packetStream [fastAuthSuccess, finalOk]
      (frames (acceptance c.inner.packetStream.nextSeqId) ++ []) := {
    plain := hw.plain
    inflated := hw.inflated
    bytes := by rw [hb, hseq, List.append_nil, List.nil_append]
    fits := hw.fits
    front := by rw [hb]; exact Nat.zero_lt_succ _
  }
  have hk : c.inner.packetStream.recvBuffer.length +
      (frames (acceptance c.inner.packetStream.nextSeqId)).length =
        framedLen [fastAuthSuccess, finalOk] + 0 := by
    rw [hb, PacketStream.frames_length, List.length_nil, Nat.zero_add, Nat.add_zero]
    rfl
  obtain ⟨b, seq, _, hfeed, _⟩ := hx.feed (by rw [hk]; decide) (by rw [hk]; decide)
  rw [hk] at hfeed
  have hfeed : c.inner.feedBytes (frames (acceptance c.inner.packetStream.nextSeqId)) =
      .ok 2 (c.inner.setStream {
        c.inner.packetStream with
        recvBuffer := b, nextSeqId := seq, recvQueue := [.new fastAuthSuccess, .new finalOk] }) := by
    rw [MySQL.Connection.feedBytes, MySQL.Connection.onStream_apply, hfeed, hw.queued]
    rfl
  have ha : authenticate c₀ = authLoop .needRead c := rest_of_reaches hr
  rw [ha, authLoop_needRead, Proc.bind_apply,
    pumpRead_data hs hin (PacketStream.frames_ne_nil _ _), hfeed]
  simp only [Nat.zero_lt_succ, if_true, Outcome.bind_ok, Proc.bind_apply, onInner_apply, setInner_inner]
  rw [MySQL.Connection.requestAuthenticationContinue_eq _ (.new fastAuthSuccess) rfl,
    MySQL.Connection.setStream_setStream, MySQL.Connection.reaction_setStream, reaction_fastAuthSuccess hp hn]
  simp only [MySQL.Connection.perform, Outcome.mapState_ok, Outcome.bind_ok, authLoop_needRead, Proc.bind_apply]
  rw [pumpRead_nil rfl rfl]
  exact ⟨_, rfl, rfl⟩

end Examples

end Tokio.Connection
end MySQL
