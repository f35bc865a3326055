import MysqlRs.Framing.Expecting
import MysqlRs.Session.Arrivals
import MysqlRs.Tokio.Operations

namespace MySQL

open PacketStream

-- The payloads that each piece completes, when `got` bytes of the first payload are there already.
def batches (ps : List Bytes) (got : Nat) : List Bytes → List (List Bytes)
  | []      => []
  | d :: ds =>
    let k := arrived ps (got + d.length)
    ps.take k :: batches (ps.drop k) (got + d.length - framedLen (ps.take k)) ds

theorem eq_nil_of_flatten {pieces : List Bytes} (h : [] ∉ pieces) (hl : pieces.flatten.length = 0) :
    pieces = [] := by
  cases pieces
  case nil       => rfl
  case cons d ds =>
    have hd : d = [] := List.length_eq_zero_iff.mp (by simp at hl; simp [hl])
    exact absurd (hd ▸ List.mem_cons_self) h

theorem batches_take {ps : List Bytes} {got : Nat} (h0 : arrived ps got = 0) (pieces : List Bytes)
    (k : Nat) :
    ((batches ps got pieces).take k).flatten =
      ps.take (arrived ps (got + (pieces.take k).flatten.length)) := by
  induction pieces generalizing ps got k
  case nil => simp [batches, h0]
  case cons d ds ih =>
    cases k
    case zero   => simp [h0]
    case succ k =>
      rw [batches]
      generalize hn : arrived ps (got + d.length) = n
      have hle : n ≤ ps.length := hn ▸ arrived_le ..
      have hf := framedLen_take_arrived_le ps (got + d.length)
      rw [hn] at hf
      have hd := arrived_drop hle (got + d.length - framedLen (ps.take n))
      rw [Nat.add_sub_cancel' hf, hn] at hd
      have ha := arrived_drop hle
        (got + d.length - framedLen (ps.take n) + (ds.take k).flatten.length)
      rw [← Nat.add_assoc, Nat.add_sub_cancel' hf] at ha
      simp only [List.take_succ_cons, List.flatten_cons, List.length_append]
      rw [ih (by omega), ← Nat.add_assoc, ha, List.take_add]

theorem batches_flatten {ps pieces : List Bytes} {got : Nat} (h0 : arrived ps got = 0)
    (hl : got + pieces.flatten.length = framedLen ps) : (batches ps got pieces).flatten = ps := by
  have hb := batches_take h0 pieces ((batches ps got pieces).length + pieces.length)
  rwa [List.take_of_length_le (Nat.le_add_right ..), List.take_of_length_le (Nat.le_add_left ..), hl,
    arrived_framedLen, List.take_length] at hb

namespace Tokio.Connection

variable [Libraries]

-- Everything about a connection that reading does not change.
def outline (c : Connection) : Connection where
  inner := c.inner.setStream
    { c.inner.packetStream with recvBuffer := [], recvQueue := [], nextSeqId := 0 }
  stream := c.stream.map ({ · with incoming := [] })
  transactionDirty := c.transactionDirty

-- The packets `ps` are on their way to a connection in these pieces.
structure Receiving (c : Connection) (queue ps pieces : List Bytes) : Prop where
  stream    : ∃ st, c.stream = some st ∧ st.incoming = pieces.map .ok
  nonempty  : [] ∉ pieces
  queued    : c.inner.packetStream.recvQueue = queue.map .new
  expecting : Expecting c.inner.packetStream ps pieces.flatten
  clean     : ∀ k, CleanCut ps (c.inner.packetStream.recvBuffer.length + (pieces.take k).flatten.length)
  errors    : ErrorLast ps

-- `a` describes what a connection still has to read.
def Awaiting (o c : Connection) (a : Arrivals) : Prop :=
  c.outline = o ∧ ∃ ps pieces, c.Receiving a.queue ps pieces ∧
    a.coming = batches ps c.inner.packetStream.recvBuffer.length pieces

variable {o c : Connection} {a : Arrivals} {queue ps pieces : List Bytes} {d : Bytes}

-- Consumes one read.
def advance (c : Connection) (s : PacketStream) (rest : List Bytes) : Connection :=
  (c.setSocket { c.stream.getD ⟨[], [], [], none⟩ with incoming := rest.map .ok }).setInner
    (c.inner.setStream s)

theorem Receiving.pumpRead_cons (h : c.Receiving queue ps (d :: pieces)) :
    pumpRead c =
      match PacketStream.feedBytes d c.inner.packetStream with
      | .ok n s    => if 0 < n then .ok () (c.advance s pieces) else pumpRead (c.advance s pieces)
      | .error e s => .error e (c.advance s pieces)
      | .pending s => .pending (c.advance s pieces) := by
  have ⟨st, hs, hi⟩ := h.stream
  rw [pumpRead_data hs hi fun hd => h.nonempty (hd ▸ List.mem_cons_self)]
  simp only [MySQL.Connection.feedBytes, MySQL.Connection.onStream_apply, advance, hs,
    Option.getD_some]
  cases PacketStream.feedBytes d c.inner.packetStream <;> rfl

-- What one read brings: the packets it completes are queued.
theorem Receiving.advance (h : c.Receiving queue ps (d :: pieces))
    (he : ∀ p ∈ ps.take (arrived ps (c.inner.packetStream.recvBuffer.length + d.length)), ¬IsError p) :
    let k := arrived ps (c.inner.packetStream.recvBuffer.length + d.length)
    ∃ s, PacketStream.feedBytes d c.inner.packetStream = .ok k s ∧
      (c.advance s pieces).outline = c.outline ∧
      (c.advance s pieces).Receiving (queue ++ ps.take k) (ps.drop k) pieces ∧
      s.recvBuffer.length =
        c.inner.packetStream.recvBuffer.length + d.length - framedLen (ps.take k) := by
  intro k
  have ⟨st, hs, _⟩ := h.stream
  have hx := h.expecting
  rw [List.flatten_cons] at hx
  have hc (j : Nat) := h.clean (j + 1)
  simp only [List.take_succ_cons, List.flatten_cons, List.length_append, ← Nat.add_assoc] at hc
  have ⟨b, seq, hl, hf, hx'⟩ := hx.feed (by simpa using hc 0) he
  refine ⟨_, hf, ?_, ⟨?_, ?_, ?_, hx', ?_, ?_⟩, ?_⟩
  · simp [outline, Connection.advance, hs, MySQL.Connection.setStream]
  · exact ⟨_, rfl, rfl⟩
  · exact fun hm => h.nonempty (List.mem_cons_of_mem _ hm)
  · simp [Connection.advance, h.queued, k]
  · intro j
    have := hc j
    rwa [hl, Nat.add_assoc, cleanCut_drop] at this
  · exact h.errors.drop k
  · simp only [k]
    omega

-- Where the packets in the queue are taken from, the rest stays as it is.
theorem Receiving.pop {p : Bytes} (h : c.Receiving (p :: queue) ps pieces) :
    ∃ c', readPacket c = .ok (MysqlPacket.new p) c' ∧ c'.outline = c.outline ∧
      c'.Receiving queue ps pieces ∧
      c'.inner.packetStream.recvBuffer = c.inner.packetStream.recvBuffer := by
  have hq := h.queued
  rw [List.map_cons] at hq
  have hx := h.expecting
  exact ⟨_, readPacket_of_queue hq, rfl,
    ⟨h.stream, h.nonempty, rfl, ⟨hx.plain, hx.inflated, hx.bytes, hx.fits, hx.front⟩, h.clean, h.errors⟩, rfl⟩

-- An error packet that arrives is raised, and nothing comes after it.
theorem Receiving.advance_error {qs : List Bytes} {e : Bytes}
    (h : c.Receiving queue (qs ++ [e]) (d :: pieces)) (he : IsError e)
    (ha : (qs ++ [e]).length ≤
      arrived (qs ++ [e]) (c.inner.packetStream.recvBuffer.length + d.length)) :
    ∃ s, PacketStream.feedBytes d c.inner.packetStream = .error (Error.raiseMysqlException e) s ∧
      (c.advance s pieces).outline = c.outline ∧
      (c.advance s pieces).Receiving (queue ++ qs) [] [] ∧ s.recvBuffer = [] ∧ pieces = [] := by
  have ⟨st, hs, _⟩ := h.stream
  have hx := h.expecting
  have hne : ∀ p ∈ qs, ¬IsError p := h.errors.of_append_ne_nil (List.cons_ne_nil e [])
  rw [List.flatten_cons] at hx
  have hf := hx.feed_error (by rw [List.length_append, List.length_singleton] at ha; omega) hne he
  have hp : pieces = [] := by
    have hl := congrArg List.length hx.bytes
    have hle := framedLen_take_arrived_le (qs ++ [e])
      (c.inner.packetStream.recvBuffer.length + d.length)
    rw [List.take_of_length_le ha] at hle
    simp only [List.length_append, framed_length] at hl
    exact eq_nil_of_flatten (fun hm => h.nonempty (List.mem_cons_of_mem _ hm)) (by omega)
  subst hp
  refine ⟨_, hf, ?_, ⟨⟨_, rfl, rfl⟩, by simp, ?_, ?_, fun _ => trivial,
    List.forall_mem_nil _⟩, rfl, rfl⟩
  · simp [outline, Connection.advance, hs, MySQL.Connection.setStream]
  · simp [Connection.advance, h.queued]
  · exact ⟨hx.plain, hx.inflated, rfl, List.forall_mem_nil _, rfl⟩

theorem Receiving.pumpRead_rel (h : c.Receiving [] ps pieces) (ho : c.outline = o) :
    Outcome.Rel (fun i p => i = MysqlPacket.new p) (Awaiting o)
      ((pumpRead c).bind fun _ => readPacket)
      (Arrivals.arrive (batches ps c.inner.packetStream.recvBuffer.length pieces)) := by
  induction pieces generalizing c ps
  case nil =>
    obtain ⟨st, hs, hi⟩ := h.stream
    rw [pumpRead_nil hs hi]
    exact .pending ⟨ho, ps, [], h, rfl⟩
  case cons d ds ih =>
    rw [h.pumpRead_cons, batches]
    generalize hk : arrived ps (c.inner.packetStream.recvBuffer.length + d.length) = k
    by_cases he : ∀ p ∈ ps.take k, ¬IsError p
    case pos =>
      obtain ⟨s, hf, ho', h', hl⟩ := h.advance (by rwa [hk])
      rw [hk] at hf h' hl
      rw [← hl, hf]
      by_cases h0 : 0 < k
      case pos =>
        have hle : k ≤ ps.length := hk ▸ arrived_le ..
        have hne : ps.take k ≠ [] := List.ne_nil_of_length_pos (by rw [List.length_take]; omega)
        obtain ⟨p, rest, hp⟩ := List.exists_cons_of_ne_nil hne
        rw [hp] at h' he ⊢
        rw [Arrivals.arrive_cons he]
        obtain ⟨c', hr, ho'', h'', hb⟩ := h'.pop
        simp only [h0, if_true, Outcome.bind_ok, hr]
        exact .ok rfl ⟨ho''.trans (ho'.trans ho), _, _, h'', by rw [hb]; rfl⟩
      case neg =>
        obtain rfl : k = 0 := by omega
        exact ih h' (ho'.trans ho)
    case neg =>
      have hl := h.errors.cases.resolve_left fun hne => he fun p hp => hne p (List.mem_of_mem_take hp)
      obtain ⟨qs, e, rfl, hqs, hE⟩ := hl
      have ha : (qs ++ [e]).length ≤ k := by
        by_contra hlt
        refine he fun p hp => ?_
        rw [List.take_append_of_le_length (by simp at hlt; omega)] at hp
        exact hqs p (List.mem_of_mem_take hp)
      obtain ⟨s, hf, ho', h', hb, hds⟩ := h.advance_error hE (by rwa [hk])
      subst hds
      rw [hf, List.take_of_length_le ha, Arrivals.arrive_error [] _ hqs hE]
      exact .error ⟨ho'.trans ho, [], [], h', rfl⟩

theorem awaiting_simulates (o : Connection) :
    packets.Simulates Arrivals.source MysqlPacket.new (Awaiting o) := by
  rintro c ⟨queue, coming⟩ ⟨ho, ps, pieces, h, rfl⟩
  cases queue
  case cons p rest =>
    have ⟨c', hr, ho', h', hb⟩ := h.pop
    change Outcome.Rel _ _ (readPacket c) _
    rw [hr]
    exact .ok rfl ⟨ho'.trans ho, ps, pieces, h', by rw [hb]⟩
  case nil =>
    have := h.pumpRead_rel ho
    rwa [← readPacket_of_empty (by simpa using h.queued)] at this

omit [Libraries] in
theorem Receiving.batches_flatten (h : c.Receiving queue ps pieces) :
    (batches ps c.inner.packetStream.recvBuffer.length pieces).flatten = ps := by
  have hl := congrArg List.length h.expecting.bytes
  rw [List.length_append, framed_length] at hl
  exact MySQL.batches_flatten (arrived_front h.expecting.front) hl

-- Nothing is left of what the server has sent.
structure Clear (c : Connection) : Prop where
  idle     : Idle c.inner.packetStream
  incoming : c.incoming = []

omit [Libraries] in
theorem Awaiting.queued (h : Awaiting o c a) :
    c.inner.packetStream.recvQueue = a.queue.map MysqlPacket.new := by
  have ⟨_, _, _, hr, _⟩ := h
  exact hr.queued

omit [Libraries] in
-- When everything has come in, only the queue holds something.
theorem Awaiting.arrived (h : Awaiting o c a) (ha : a.coming.flatten = []) :
    Idle { c.inner.packetStream with recvQueue := [] } ∧ c.incoming = [] := by
  have ⟨_, ps, pieces, hr, hc⟩ := h
  have hf := hr.batches_flatten
  rw [← hc, ha] at hf
  subst hf
  have hx := hr.expecting
  have ⟨hb, hp⟩ := List.append_eq_nil_iff.mp hx.bytes
  have ⟨st, hs, hi⟩ := hr.stream
  have hn : pieces = [] := eq_nil_of_flatten hr.nonempty (by rw [hp, List.length_nil])
  exact ⟨⟨hx.plain, hx.inflated, hb, rfl⟩, by simp [Connection.incoming, hs, hi, hn]⟩

omit [Libraries] in
theorem Awaiting.clear (h : Awaiting o c a) (ha : a.all = []) : c.Clear := by
  have ⟨hq, hcf⟩ := List.append_eq_nil_iff.mp ha
  have ⟨hi, hc⟩ := h.arrived hcf
  exact ⟨⟨hi.plain, hi.inflated, hi.buffer, by rw [h.queued, hq]; rfl⟩, hc⟩

omit [Libraries] in
-- Conversely, nothing is then awaited.
theorem Awaiting.all_of_clear (h : Awaiting o c a) (hc : c.Clear) : a.all = [] := by
  have ⟨_, ps, pieces, hr, hcm⟩ := h
  have hq : a.queue = [] := by
    have := hr.queued
    rw [hc.idle.queue] at this
    exact List.map_eq_nil_iff.mp this.symm
  have hp : pieces = [] := by
    have ⟨st, hs, hi⟩ := hr.stream
    have := hc.incoming
    simpa [Connection.incoming, hs, hi] using this
  rw [Arrivals.all, hq, hcm, hp]
  rfl

end Tokio.Connection
end MySQL
