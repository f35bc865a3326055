import MysqlRs.Framing.Delivery

namespace MySQL.PacketStream

-- An uncompressed stream that has read a part of the framed payloads `ps`, with the bytes `more` of
-- them still to come.
structure Expecting (s : PacketStream) (ps : List Bytes) (more : Bytes) : Prop where
  plain    : s.compressed = false
  inflated : s.decompressedBuffer = []
  bytes    : s.recvBuffer ++ more = framed s.nextSeqId ps
  fits     : ∀ p ∈ ps, p.length ≤ s.maxAllowedPacket.toNat
  front    : Front s.recvBuffer ps

-- An uncompressed stream that has nothing buffered.
structure Idle (s : PacketStream) : Prop where
  plain    : s.compressed = false
  inflated : s.decompressedBuffer = []
  buffer   : s.recvBuffer = []
  queue    : s.recvQueue = []

def framedLen (ps : List Bytes) : Nat :=
  (ps.map frameLen).sum

@[simp]
theorem framed_length (seq : UInt8) (ps : List Bytes) : (framed seq ps).length = framedLen ps := by
  induction ps generalizing seq
  case nil       => rfl
  case cons _ ih => simp [framed, framedLen, plainPackets_length, ih]

theorem arrived_append (ps qs : List Bytes) (n : Nat) :
    arrived (ps ++ qs) (framedLen ps + n) = ps.length + arrived qs n := by
  induction ps
  case nil          => simp [framedLen]
  case cons p ps ih =>
    have h : frameLen p + framedLen ps + n - frameLen p = framedLen ps + n := by omega
    have hp : frameLen p ≤ frameLen p + framedLen ps + n := by omega
    simp only [framedLen, List.map_cons, List.sum_cons, List.cons_append, arrived] at ih ⊢
    rw [← framedLen, if_pos hp, h, framedLen, ih, List.length_cons]
    omega

theorem cleanCut_append (ps qs : List Bytes) (n : Nat) :
    CleanCut (ps ++ qs) (framedLen ps + n) ↔ CleanCut qs n := by
  induction ps
  case nil          => simp [framedLen]
  case cons p ps ih =>
    have h : frameLen p + framedLen ps + n - frameLen p = framedLen ps + n := by omega
    have hp : frameLen p ≤ frameLen p + framedLen ps + n := by omega
    simp only [framedLen, List.map_cons, List.sum_cons, List.cons_append, CleanCut] at ih ⊢
    rw [← framedLen, if_pos hp, h, framedLen, ih]

theorem cleanCut_zero (ps : List Bytes) : CleanCut ps 0 := by
  cases ps
  case nil       => trivial
  case cons p ps =>
    have := frameLen_pos p
    rw [CleanCut, if_neg (by omega)]
    omega

theorem cleanCut_framedLen_append (ps qs : List Bytes) : CleanCut (ps ++ qs) (framedLen ps) :=
  (cleanCut_append ps qs 0).mpr (cleanCut_zero qs)

theorem cleanCut_framedLen (ps : List Bytes) : CleanCut ps (framedLen ps) := by
  have := cleanCut_framedLen_append ps []
  rwa [List.append_nil] at this

theorem arrived_framedLen (ps : List Bytes) : arrived ps (framedLen ps) = ps.length := by
  simpa [arrived] using arrived_append ps [] 0

theorem framedLen_take_arrived_le (ps : List Bytes) (n : Nat) :
    framedLen (ps.take (arrived ps n)) ≤ n := by
  induction ps generalizing n
  case nil          => exact Nat.zero_le n
  case cons p ps ih =>
    rw [arrived]
    split
    case isTrue h =>
      have := ih (n - frameLen p)
      simp only [framedLen, List.take_succ_cons, List.map_cons, List.sum_cons] at this ⊢
      omega
    case isFalse => exact Nat.zero_le n

theorem arrived_front {buffer : Bytes} {ps : List Bytes} (h : Front buffer ps) :
    arrived ps buffer.length = 0 := by
  cases ps
  case nil       => rfl
  case cons p ps =>
    have := firstFragmentLen_le p
    rw [Front] at h
    rw [arrived, if_neg (by omega)]

theorem arrived_zero (ps : List Bytes) : arrived ps 0 = 0 := by
  cases ps
  case nil       => rfl
  case cons p ps =>
    have := frameLen_pos p
    rw [arrived, if_neg (by omega)]

-- Positions after the first `k` payloads, counted from the end of those.
theorem arrived_drop {ps : List Bytes} {k : Nat} (hk : k ≤ ps.length) (n : Nat) :
    arrived ps (framedLen (ps.take k) + n) = k + arrived (ps.drop k) n := by
  have := arrived_append (ps.take k) (ps.drop k) n
  rwa [List.take_append_drop, List.length_take_of_le hk] at this

theorem cleanCut_drop (ps : List Bytes) (k n : Nat) :
    CleanCut ps (framedLen (ps.take k) + n) ↔ CleanCut (ps.drop k) n := by
  have := cleanCut_append (ps.take k) (ps.drop k) n
  rwa [List.take_append_drop] at this

section

variable [Zlib] {s : PacketStream} {ps : List Bytes} {data more : Bytes}

theorem feedBytes_plain (hc : s.compressed = false) (hd : s.decompressedBuffer = []) (data : Bytes) :
    feedBytes data s =
      (parsePlainPackets (s.recvBuffer ++ data) 0 { s with recvBuffer := [] }).bind
        fun r s' => .ok r.1 { s' with recvBuffer := r.2 } := by
  obtain ⟨_, _, _, _, _, _, max, _⟩ := s
  cases hc
  cases hd
  have nothing (s : PacketStream) : parsePlainPackets [] 0 s = .ok (0, []) s :=
    parsePlainPackets_stuck _ (.nil _)
  simp only [feedBytes, Proc.bind_apply, Proc.modify_apply, Proc.get_apply, Outcome.bind_ok, nothing,
    Bool.false_eq_true, if_false, Bool.not_false, if_true, Nat.zero_add]
  rfl

theorem Expecting.feed (h : Expecting s ps (data ++ more))
    (hc : CleanCut ps (s.recvBuffer.length + data.length))
    (he : ∀ p ∈ ps.take (arrived ps (s.recvBuffer.length + data.length)),
      ¬(MysqlPacket.new p).isErrorPacket) :
    let k := arrived ps (s.recvBuffer.length + data.length)
    ∃ b seq, (s.recvBuffer.length + data.length = framedLen (ps.take k) + b.length) ∧
      let s' := { s with
        recvBuffer := b, nextSeqId := seq, recvQueue := s.recvQueue ++ (ps.take k).map .new }
      feedBytes data s = .ok k s' ∧ Expecting s' (ps.drop k) more := by
  have hb := h.bytes
  rw [← List.append_assoc] at hb
  rw [← List.length_append] at hc he ⊢
  intro k
  have ⟨b, h₁, h₂, h₃⟩ := parsePlainPackets_clean (s := { s with recvBuffer := [] }) 0 ps hb h.fits hc he
  have h₄ := framed_append s.nextSeqId (ps.take k) (ps.drop k)
  rw [List.take_append_drop, ← hb, ← h₁, ← List.append_assoc, List.append_cancel_right_eq] at h₄
  refine ⟨b, _, ?_, ?_, h.plain, h.inflated, h₁, fun p hp => h.fits p (List.mem_of_mem_drop hp), h₂⟩
  · rw [h₄, List.length_append, framed_length]
  · rw [feedBytes_plain h.plain h.inflated, h₃, Nat.zero_add]
    rfl

-- A read that ends behind a full fragment queues that for a packet of its own.
theorem Idle.feed_fragment (h : Idle s) {chunk : Bytes} (hc : chunk.length = maxPacketLen)
    (fits : ∀ p ∈ ps ++ [chunk], p.length ≤ s.maxAllowedPacket.toNat)
    (he : ∀ p ∈ ps ++ [chunk], ¬(MysqlPacket.new p).isErrorPacket) :
    feedBytes (framed s.nextSeqId ps ++ fragment (seqAfter s.nextSeqId ps) chunk) s =
      .ok (ps.length + 1) {
        s with
        recvQueue := (ps ++ [chunk]).map .new
        nextSeqId := seqAfter s.nextSeqId ps + 1
      } := by
  rw [List.forall_mem_append, List.forall_mem_singleton] at fits he
  rw [feedBytes_plain h.plain h.inflated, h.buffer, List.nil_append]
  have hf := parsePlainPackets_fragment (s := {
    s with
    recvBuffer := []
    recvQueue := s.recvQueue ++ ps.map .new
    nextSeqId := seqAfter s.nextSeqId ps
  }) (0 + ps.length) hc fits.right he.right
  have hs := parsePlainPackets_framed (s := { s with recvBuffer := [] }) 0 ps
    (fragment (seqAfter s.nextSeqId ps) chunk) fits.left he.left
  rw [hs.trans hf]
  simp [h.queue]

theorem Expecting.feed_error {e : Bytes} {es : List Bytes}
    (h : Expecting s (ps ++ e :: es) (data ++ more))
    (ha : ps.length < arrived (ps ++ e :: es) (s.recvBuffer.length + data.length))
    (hp : ∀ p ∈ ps, ¬(MysqlPacket.new p).isErrorPacket) (he : (MysqlPacket.new e).isErrorPacket) :
    feedBytes data s = .error (Error.raiseMysqlException e) {
      s with
      recvBuffer := []
      recvQueue := s.recvQueue ++ ps.map .new
      nextSeqId := seqAfter s.nextSeqId (ps ++ [e])
    } := by
  have hb := h.bytes
  rw [← List.append_assoc] at hb
  rw [← List.length_append] at ha
  rw [feedBytes_plain h.plain h.inflated,
    parsePlainPackets_error (s := { s with recvBuffer := [] }) 0 ps e es hb h.fits ha hp he]
  rfl

end

end MySQL.PacketStream
