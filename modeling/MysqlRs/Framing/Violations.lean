import MysqlRs.Framing.Expecting
import MysqlRs.Tokio.Connection

namespace MySQL

namespace PacketStream

-- Why received bytes are refused. An error packet is no violation of the framing.
inductive Cause
  | sequence
  | tooLarge
  | decompression
  | lengthMismatch
  | errorPacket
  deriving DecidableEq

-- A fragment is there, and it is small enough.
structure Whole (buffer : Bytes) (s : PacketStream) : Prop where
  header  : 4 ≤ buffer.length
  fits    : readInt3 buffer ≤ s.maxAllowedPacket.toNat
  payload : 4 + readInt3 buffer ≤ buffer.length

-- Joining the fragments of a packet comes to one that is refused.
inductive JoinFails : Bytes → Bytes → PacketStream → Cause → Prop
  | oversized {buff buffer : Bytes} {s : PacketStream} : 4 ≤ buffer.length →
    s.maxAllowedPacket.toNat < readInt3 buffer → JoinFails buff buffer s .tooLarge
  | sequence {buff buffer : Bytes} {s : PacketStream} : Whole buffer s →
    buffer.getD 3 0 ≠ s.nextSeqId → JoinFails buff buffer s .sequence
  | joined {buff buffer : Bytes} {s : PacketStream} : Whole buffer s → buffer.getD 3 0 = s.nextSeqId →
    s.maxAllowedPacket.toNat < min (buff.length + readInt3 buffer) usizeMax →
    JoinFails buff buffer s .tooLarge
  | next {buff buffer : Bytes} {s : PacketStream} {cause : Cause} : Whole buffer s →
    buffer.getD 3 0 = s.nextSeqId →
    min (buff.length + readInt3 buffer) usizeMax ≤ s.maxAllowedPacket.toNat →
    maxPacketLen ≤ readInt3 buffer →
    JoinFails (buff ++ (buffer.drop 4).take (readInt3 buffer)) (buffer.drop (4 + readInt3 buffer))
      { s with nextSeqId := s.nextSeqId + 1 } cause →
    JoinFails buff buffer s cause

-- The parser comes to such a fragment, or to an error packet.
inductive PlainFails : Bytes → PacketStream → Cause → Prop
  | join {buffer : Bytes} {s : PacketStream} {cause : Cause} :
    JoinFails [] buffer s cause → PlainFails buffer s cause
  | errorPacket {buffer buff rest : Bytes} {s s' : PacketStream} : Whole buffer s →
    joinFragments [] buffer s = .ok (buff, rest) s' → (MysqlPacket.new buff).isErrorPacket →
    PlainFails buffer s .errorPacket
  | next {buffer buff rest : Bytes} {s s' : PacketStream} {cause : Cause} : Whole buffer s →
    joinFragments [] buffer s = .ok (buff, rest) s' → ¬(MysqlPacket.new buff).isErrorPacket →
    PlainFails rest { s' with recvQueue := s'.recvQueue ++ [.new buff] } cause →
    PlainFails buffer s cause

-- Nothing is left of what has been received or was to be sent.
structure Emptied (s : PacketStream) : Prop where
  sent     : s.sendQueue = []
  queue    : s.recvQueue = []
  buffer   : s.recvBuffer = []
  inflated : s.decompressedBuffer = []

theorem forceClose_emptied (s : PacketStream) : s.forceClose.Emptied :=
  ⟨rfl, rfl, rfl, rfl⟩

section Plain

variable {buff buffer : Bytes} {s s' : PacketStream} {cause : Cause} {e : Error}

theorem joinFragments_whole (h : Whole buffer s) :
    joinFragments buff buffer s =
      if buffer.getD 3 0 ≠ s.nextSeqId then
        .error (sequenceError "Packet" (buffer.getD 3 0) s.nextSeqId) s.forceClose
      else if s.maxAllowedPacket.toNat < min (buff.length + readInt3 buffer) usizeMax then
        .error (packetTooLarge "packet" (min (buff.length + readInt3 buffer) usizeMax)
          s.maxAllowedPacket.toNat) { s with nextSeqId := s.nextSeqId + 1 }.forceClose
      else if readInt3 buffer < maxPacketLen then
        .ok (buff ++ (buffer.drop 4).take (readInt3 buffer), buffer.drop (4 + readInt3 buffer))
          { s with nextSeqId := s.nextSeqId + 1 }
      else
        joinFragments (buff ++ (buffer.drop 4).take (readInt3 buffer)) (buffer.drop (4 + readInt3 buffer))
          { s with nextSeqId := s.nextSeqId + 1 } := by
  rw [joinFragments]
  simp only [Nat.not_lt.mpr h.header, Nat.not_lt.mpr h.fits, Nat.not_lt.mpr h.payload, if_false]

theorem JoinFails.error (h : JoinFails buff buffer s cause) :
    (cause = .sequence ∨ cause = .tooLarge) ∧
      ∃ e s', joinFragments buff buffer s = .error e s' ∧ s'.Emptied := by
  induction h
  case oversized hb hm =>
    refine ⟨.inr rfl, ?_⟩
    rw [joinFragments]
    simp only [Nat.not_lt.mpr hb, hm, if_false, if_true]
    exact ⟨_, _, rfl, forceClose_emptied _⟩
  case sequence hw hs =>
    rw [joinFragments_whole hw, if_pos hs]
    exact ⟨.inl rfl, _, _, rfl, forceClose_emptied _⟩
  case joined hw hs hm =>
    rw [joinFragments_whole hw, if_neg (not_not.mpr hs), if_pos hm]
    exact ⟨.inr rfl, _, _, rfl, forceClose_emptied _⟩
  case next hw hs hm hc _ ih =>
    rw [joinFragments_whole hw, if_neg (not_not.mpr hs), if_neg (Nat.not_lt.mpr hm),
      if_neg (Nat.not_lt.mpr hc)]
    exact ih

theorem joinFails_of_error (h : joinFragments buff buffer s = .error e s') :
    ∃ cause, JoinFails buff buffer s cause := by
  fun_induction joinFragments buff buffer s
  case case2 hb _ _ hm => exact ⟨_, .oversized (Nat.not_lt.mp hb) hm⟩
  case case4 hb _ _ hm hc _ hs => exact ⟨_, .sequence ⟨Nat.not_lt.mp hb, Nat.not_lt.mp hm, Nat.not_lt.mp hc⟩ hs⟩
  case case5 hb _ _ hm hc _ hs _ hj =>
    exact ⟨_, .joined ⟨Nat.not_lt.mp hb, Nat.not_lt.mp hm, Nat.not_lt.mp hc⟩ (not_not.mp hs) hj⟩
  case case7 hb _ _ hm hc _ hs _ hj _ _ hl ih =>
    obtain ⟨cause, ih⟩ := ih h
    exact ⟨cause, .next ⟨Nat.not_lt.mp hb, Nat.not_lt.mp hm, Nat.not_lt.mp hc⟩ (not_not.mp hs)
      (Nat.not_lt.mp hj) (Nat.not_lt.mp hl) ih⟩
  all_goals cases h

theorem parsePlainPackets_whole (n : Nat) (h : Whole buffer s) :
    parsePlainPackets buffer n s = (joinFragments [] buffer s).bind fun r s =>
      if (MysqlPacket.new r.1).isErrorPacket then .error (MysqlPacket.new r.1).raiseForError s
      else parsePlainPackets r.2 (n + 1) { s with recvQueue := s.recvQueue ++ [.new r.1] } := by
  rw [parsePlainPackets]
  simp only [Nat.not_lt.mpr h.header, Nat.not_lt.mpr h.fits, Nat.not_lt.mpr h.payload, dite_false]
  split <;> rename_i hj <;> rw [hj] <;> rfl

theorem PlainFails.error (h : PlainFails buffer s cause) (n : Nat) :
    (cause = .sequence ∨ cause = .tooLarge ∨ cause = .errorPacket) ∧
      ∃ e s', parsePlainPackets buffer n s = .error e s' ∧ (cause ≠ .errorPacket → s'.Emptied) := by
  induction h generalizing n
  case join buffer s cause h =>
    have ⟨hcause, e, s', hj, hs'⟩ := h.error
    refine ⟨hcause.imp_right .inl, ?_⟩
    by_cases hw : Whole buffer s
    case pos =>
      rw [parsePlainPackets_whole n hw, hj]
      exact ⟨e, s', rfl, fun _ => hs'⟩
    case neg =>
      cases h
      case oversized hb hm =>
        rw [parsePlainPackets]
        simp only [Nat.not_lt.mpr hb, hm, dite_false, dite_true]
        exact ⟨_, _, rfl, fun _ => forceClose_emptied _⟩
      all_goals exact absurd ‹_› hw
  case errorPacket hw hj he =>
    rw [parsePlainPackets_whole n hw, hj, Outcome.bind_ok, if_pos he]
    exact ⟨.inr (.inr rfl), _, _, rfl, fun h => absurd rfl h⟩
  case next hw hj he _ ih =>
    rw [parsePlainPackets_whole n hw, hj, Outcome.bind_ok, if_neg he]
    exact ih (n + 1)

theorem plainFails_of_error {n : Nat} (h : parsePlainPackets buffer n s = .error e s') :
    ∃ cause, PlainFails buffer s cause := by
  fun_induction parsePlainPackets buffer n s
  case case2 hb _ _ hm => exact ⟨_, .join (.oversized (Nat.not_lt.mp hb) hm)⟩
  case case4 hb _ _ hm hc _ _ _ hj _ he =>
    exact ⟨_, .errorPacket ⟨Nat.not_lt.mp hb, Nat.not_lt.mp hm, Nat.not_lt.mp hc⟩ hj he⟩
  case case5 hb _ _ hm hc _ _ _ hj _ he ih =>
    have ⟨cause, ih⟩ := ih h
    exact ⟨cause, .next ⟨Nat.not_lt.mp hb, Nat.not_lt.mp hm, Nat.not_lt.mp hc⟩ hj he ih⟩
  case case6 hj =>
    have ⟨cause, hj⟩ := joinFails_of_error hj
    exact ⟨cause, .join hj⟩
  all_goals exact nomatch h

end Plain

section Compressed

def compressedPayload (s : PacketStream) : Bytes :=
  (s.recvBuffer.take (compressedHeaderLen + readInt3 s.recvBuffer)).drop compressedHeaderLen

def uncompressedLen (s : PacketStream) : Nat :=
  readInt3 (s.recvBuffer.drop 4)

-- A compressed packet is there, with the sequence number that is due.
structure Due (s : PacketStream) : Prop where
  header   : compressedHeaderLen ≤ s.recvBuffer.length
  payload  : compressedHeaderLen + readInt3 s.recvBuffer ≤ s.recvBuffer.length
  sequence : s.recvBuffer.getD 3 0 = s.nextCompressedSeqId

-- What is in the compressed packet.
inductive Inflates [Zlib] (s : PacketStream) : Bytes → Prop
  | stored : uncompressedLen s = 0 → Inflates s (compressedPayload s)
  | deflated {plain : Bytes} : uncompressedLen s ≠ 0 →
    Zlib.decompress (compressedPayload s) = .ok plain → plain.length = uncompressedLen s →
    Inflates s plain

-- Reading compressed packets comes to one that is refused.
inductive CompressedFails [Zlib] : PacketStream → Cause → Prop
  | sequence {s : PacketStream} : compressedHeaderLen ≤ s.recvBuffer.length →
    compressedHeaderLen + readInt3 s.recvBuffer ≤ s.recvBuffer.length →
    s.recvBuffer.getD 3 0 ≠ s.nextCompressedSeqId → CompressedFails s .sequence
  | decompression {s : PacketStream} {e : String} : Due s → uncompressedLen s ≠ 0 →
    Zlib.decompress (compressedPayload s) = .error e → CompressedFails s .decompression
  | lengthMismatch {s : PacketStream} {plain : Bytes} : Due s → uncompressedLen s ≠ 0 →
    Zlib.decompress (compressedPayload s) = .ok plain → plain.length ≠ uncompressedLen s →
    CompressedFails s .lengthMismatch
  | tooLarge {s : PacketStream} {plain : Bytes} : Due s → Inflates s plain →
    s.maxAllowedPacket.toNat < (s.decompressedBuffer ++ plain).length → CompressedFails s .tooLarge
  | next {s : PacketStream} {plain : Bytes} {cause : Cause} : Due s → Inflates s plain →
    (s.decompressedBuffer ++ plain).length ≤ s.maxAllowedPacket.toNat →
    CompressedFails {
      s with
      nextCompressedSeqId := s.nextCompressedSeqId + 1
      decompressedBuffer := s.decompressedBuffer ++ plain
      recvBuffer := s.recvBuffer.drop (compressedHeaderLen + readInt3 s.recvBuffer)
    } cause → CompressedFails s cause

variable [Zlib] {s s' : PacketStream} {cause : Cause} {plain : Bytes} {e : Error}

theorem feedCompressedPackets_due (h : Due s) (hi : Inflates s plain) :
    feedCompressedPackets s =
      if s.maxAllowedPacket.toNat < (s.decompressedBuffer ++ plain).length then
        .error (packetTooLarge "packet" 0 s.maxAllowedPacket.toNat)
          { s with nextCompressedSeqId := s.nextCompressedSeqId + 1 }.forceClose
      else
        feedCompressedPackets {
          s with
          nextCompressedSeqId := s.nextCompressedSeqId + 1
          decompressedBuffer := s.decompressedBuffer ++ plain
          recvBuffer := s.recvBuffer.drop (compressedHeaderLen + readInt3 s.recvBuffer)
        } := by
  rw [feedCompressedPackets]
  simp only [Nat.not_lt.mpr h.header, Nat.not_lt.mpr h.payload, Nat.not_lt.mpr (readInt3_le _), h.sequence,
    if_false, ne_eq, not_true_eq_false]
  cases hi
  case stored hu => 
    rw [uncompressedLen] at hu
    simp only [hu, if_true]
    rfl
  case deflated hu hd hl => 
    rw [uncompressedLen] at hu hl
    rw [compressedPayload] at hd
    simp only [hu, hd, hl, if_false, not_true_eq_false]
    rfl

-- A packet that cannot be decompressed stays where it is.
theorem CompressedFails.error (h : CompressedFails s cause) :
    cause ≠ .errorPacket ∧ ∃ e s', feedCompressedPackets s = .error e s' ∧
      (cause ≠ .decompression → s'.Emptied) ∧ (cause = .decompression → s'.recvBuffer ≠ []) := by
  induction h
  case sequence hb hp hs =>
    refine ⟨by rintro ⟨⟩, ?_⟩
    rw [feedCompressedPackets]
    simp only [Nat.not_lt.mpr hb, Nat.not_lt.mpr hp, Nat.not_lt.mpr (readInt3_le _), hs, if_false, ne_eq,
      not_false_eq_true, if_true]
    exact ⟨_, _, rfl, fun _ => forceClose_emptied _, by rintro ⟨⟩⟩
  case decompression s _ h hu hd =>
    have hf : ∃ e, feedCompressedPackets s =
        .error e { s with nextCompressedSeqId := s.nextCompressedSeqId + 1 } := by
      rw [uncompressedLen] at hu
      rw [compressedPayload] at hd
      rw [feedCompressedPackets]
      simp only [Nat.not_lt.mpr h.header, Nat.not_lt.mpr h.payload, Nat.not_lt.mpr (readInt3_le _),
        h.sequence, if_false, ne_eq, not_true_eq_false, hu, hd]
      exact ⟨_, rfl⟩
    obtain ⟨e, hf⟩ := hf
    refine ⟨by rintro ⟨⟩, e, _, hf, fun h => absurd rfl h, fun _ hn => ?_⟩
    have hl := h.header
    rw [show s.recvBuffer = [] from hn] at hl
    exact absurd hl (by decide)
  case lengthMismatch s _ h hu hd hl =>
    refine ⟨by rintro ⟨⟩, ?_⟩
    rw [uncompressedLen] at hu hl
    rw [compressedPayload] at hd
    rw [feedCompressedPackets]
    simp only [Nat.not_lt.mpr h.header, Nat.not_lt.mpr h.payload, Nat.not_lt.mpr (readInt3_le _), h.sequence,
      if_false, ne_eq, not_true_eq_false, hu, hd, hl, not_false_eq_true, if_true]
    exact ⟨_, _, rfl, fun _ => forceClose_emptied _, by rintro ⟨⟩⟩
  case tooLarge h hi hm =>
    rw [feedCompressedPackets_due h hi, if_pos hm]
    exact ⟨by rintro ⟨⟩, _, _, rfl, fun _ => forceClose_emptied _, by rintro ⟨⟩⟩
  case next h hi hm _ ih =>
    rw [feedCompressedPackets_due h hi, if_neg (Nat.not_lt.mpr hm)]
    exact ih

theorem Due.inflates (h : Due s) : (∃ plain, Inflates s plain) ∨ ∃ cause, CompressedFails s cause := by
  by_cases hu : uncompressedLen s = 0
  case pos => exact .inl ⟨_, .stored hu⟩
  case neg =>
    cases hd : Zlib.decompress (compressedPayload s)
    case error => exact .inr ⟨_, .decompression h hu hd⟩
    case ok plain =>
      by_cases hl : plain.length = uncompressedLen s
      case pos => exact .inl ⟨plain, .deflated hu hd hl⟩
      case neg => exact .inr ⟨_, .lengthMismatch h hu hd hl⟩

theorem compressedFails_of_error (h : feedCompressedPackets s = .error e s') :
    ∃ cause, CompressedFails s cause := by
  induction hn : s.recvBuffer.length using Nat.strong_induction_on generalizing s
  case h n ih =>
    by_cases hb : s.recvBuffer.length < compressedHeaderLen
    case pos =>
      rw [feedCompressedPackets, if_pos hb] at h
      cases h
    case neg =>
      by_cases hp : s.recvBuffer.length < compressedHeaderLen + readInt3 s.recvBuffer
      case pos =>
        rw [feedCompressedPackets, if_neg hb] at h
        simp only [Nat.not_lt.mpr (readInt3_le _), hp, if_false, if_true] at h
        cases h
      case neg =>
        by_cases hs : s.recvBuffer.getD 3 0 = s.nextCompressedSeqId
        case neg => exact ⟨_, .sequence (Nat.not_lt.mp hb) (Nat.not_lt.mp hp) hs⟩
        case pos =>
          have hd : Due s := ⟨Nat.not_lt.mp hb, Nat.not_lt.mp hp, hs⟩
          obtain ⟨plain, hi⟩ | hf := hd.inflates
          case inr => exact hf
          case inl =>
            rw [feedCompressedPackets_due hd hi] at h
            split_ifs at h with hm
            case pos => exact ⟨_, .tooLarge hd hi hm⟩
            case neg =>
              have hlt : (s.recvBuffer.drop (compressedHeaderLen + readInt3 s.recvBuffer)).length < n := by
                rw [List.length_drop, compressedHeaderLen]
                rw [compressedHeaderLen] at hb
                omega
              obtain ⟨cause, hf⟩ := ih _ hlt h rfl
              exact ⟨cause, .next hd hi (Nat.not_lt.mp hm) hf⟩

end Compressed

section Feeding

variable [Zlib] {s s' : PacketStream} {data : Bytes} {cause : Cause} {e : Error}

-- What is done before the packets are parsed.
def unpack (data : Bytes) (s : PacketStream) : Outcome Error PacketStream Unit :=
  let s := { s with recvBuffer := s.recvBuffer ++ data }
  if s.compressed then feedCompressedPackets s else .ok () s

-- Why feeding the bytes fails.
inductive Fails (data : Bytes) (s : PacketStream) : Cause → Prop
  | compressed {cause : Cause} : s.compressed →
    CompressedFails { s with recvBuffer := s.recvBuffer ++ data } cause → Fails data s cause
  | inflated {s₁ : PacketStream} {cause : Cause} : unpack data s = .ok () s₁ →
    PlainFails s₁.decompressedBuffer { s₁ with decompressedBuffer := [] } cause → Fails data s cause
  | plain {s₁ s₂ : PacketStream} {n : Nat} {rest : Bytes} {cause : Cause} :
    unpack data s = .ok () s₁ →
    parsePlainPackets s₁.decompressedBuffer 0 { s₁ with decompressedBuffer := [] } = .ok (n, rest) s₂ →
    s₂.compressed = false →
    PlainFails s₂.recvBuffer { s₂ with decompressedBuffer := rest, recvBuffer := [] } cause →
    Fails data s cause

theorem feedBytes_eq (data : Bytes) (s : PacketStream) :
    feedBytes data s = (unpack data s).bind fun _ s₁ =>
      (parsePlainPackets s₁.decompressedBuffer 0 { s₁ with decompressedBuffer := [] }).bind fun r s₂ =>
        if s₂.compressed then .ok r.1 { s₂ with decompressedBuffer := r.2 }
        else (parsePlainPackets s₂.recvBuffer 0 { s₂ with decompressedBuffer := r.2, recvBuffer := [] }).bind
          fun r' s₃ => .ok (r.1 + r'.1) { s₃ with recvBuffer := r'.2 } := by
  rw [feedBytes, unpack]
  simp only [Proc.bind_apply, Proc.modify_apply, Proc.get_apply, Outcome.bind_ok]
  have rest (s₁ : PacketStream) :
      (parsePlainPackets s₁.decompressedBuffer 0 { s₁ with decompressedBuffer := [] }).bind (fun r => do
        modify fun s => { s with decompressedBuffer := r.2 }
        if !(← get).compressed then
          let buffer := (← get).recvBuffer
          modify fun s => { s with recvBuffer := [] }
          let r' ← parsePlainPackets buffer 0
          modify fun s => { s with recvBuffer := r'.2 }
          return r.1 + r'.1
        return r.1) =
      (parsePlainPackets s₁.decompressedBuffer 0 { s₁ with decompressedBuffer := [] }).bind fun r s₂ =>
        if s₂.compressed then .ok r.1 { s₂ with decompressedBuffer := r.2 }
        else (parsePlainPackets s₂.recvBuffer 0 { s₂ with decompressedBuffer := r.2, recvBuffer := [] }).bind
          fun r' s₃ => .ok (r.1 + r'.1) { s₃ with recvBuffer := r'.2 } := by
    refine congrArg _ (funext fun r => funext fun s₂ => ?_)
    simp only [Proc.bind_apply, Proc.modify_apply, Proc.get_apply, Outcome.bind_ok]
    cases s₂.compressed <;> rfl
  cases hc : s.compressed
  case false =>
    simp only [Bool.false_eq_true, if_false, Outcome.bind_ok]
    exact rest _
  case true  =>
    simp only [if_true]
    exact congrArg (Outcome.bind _) (funext fun _ => funext rest)

theorem Fails.error (h : Fails data s cause) :
    ∃ e s', feedBytes data s = .error e s' ∧
      (cause ≠ .errorPacket → cause ≠ .decompression → s'.Emptied) ∧
      (cause = .decompression → s'.recvBuffer ≠ []) := by
  rw [feedBytes_eq]
  cases h
  case compressed hc h =>
    have ⟨he, e, s', hf, hs, hr⟩ := h.error
    have hu : unpack data s = .error e s' := (if_pos hc).trans hf
    exact ⟨e, s', by rw [hu, Outcome.bind_error], fun _ => hs, hr⟩
  case inflated hu h =>
    have ⟨hc, e, s', hf, hs⟩ := h.error 0
    rw [hu, Outcome.bind_ok, hf]
    exact ⟨e, s', rfl, fun he _ => hs he, fun hd => by simp [hd] at hc⟩
  case plain hu hp hc h =>
    have ⟨hcause, e, s', hf, hs⟩ := h.error 0
    rw [hu, Outcome.bind_ok, hp, Outcome.bind_ok, if_neg (by rw [hc]; nofun), hf]
    exact ⟨e, s', rfl, fun he _ => hs he, fun hd => by simp [hd] at hcause⟩

theorem fails_of_error (h : feedBytes data s = .error e s') : ∃ cause, Fails data s cause := by
  rw [feedBytes_eq] at h
  obtain hu | ⟨_, s₁, hu, h⟩ := Outcome.bind_eq_error.mp h
  · rw [unpack] at hu
    simp only at hu
    split_ifs at hu with hc
    have ⟨cause, hf⟩ := compressedFails_of_error hu
    exact ⟨cause, .compressed hc hf⟩
  · obtain hp | ⟨⟨n, rest⟩, s₂, hp, h⟩ := Outcome.bind_eq_error.mp h
    · have ⟨cause, hf⟩ := plainFails_of_error hp
      exact ⟨cause, .inflated hu hf⟩
    · split_ifs at h with hc
      obtain hq | ⟨_, _, _, h⟩ := Outcome.bind_eq_error.mp h
      · have ⟨cause, hf⟩ := plainFails_of_error hq
        exact ⟨cause, .plain hu hp (Bool.eq_false_iff.mpr hc) hf⟩
      · exact nomatch h

end Feeding
end PacketStream

namespace Connection

variable [Libraries]

-- The connection is closed, and nothing that has been received can be taken for a part of a later response.
structure Shut (c : Connection) : Prop where
  closed   : c.isOpen = false
  emptied  : c.packetStream.Emptied
  rejected : ∀ command sql, ∃ e, executeCommand command sql c = .error e c

theorem shut_of_closed {c : Connection} (hc : c.closed) (he : c.packetStream.Emptied) : c.Shut where
  closed   := by rw [isOpen, hc]; rfl
  emptied  := he
  rejected := fun command sql => ⟨.interfaceError 0 "Connection is closed", by
    rw [executeCommand, Proc.bind_apply, Proc.get_apply, Outcome.bind_ok, if_pos hc]
    rfl⟩

end Connection

namespace Tokio.Connection

open PacketStream (Fails fails_of_error)

section

variable [Libraries] {c : Connection} {st : ConnectionStream} {data : Bytes} {rest : List ReadEvent}

-- A violation of the framing fails the read, but does not close the connection: it is shut afterwards if and
-- only if it was closed before, and the packet could be decompressed. Every failure is for one of the causes.
theorem pumpRead_violation (hs : c.stream = some st) (hi : st.incoming = .ok data :: rest)
    (hd : data ≠ []) :
    (∀ e inner, c.inner.feedBytes data = .error e inner →
      ∃ cause, Fails data c.inner.packetStream cause) ∧
    ∀ cause, Fails data c.inner.packetStream cause → cause ≠ .errorPacket →
      ∃ e c', pumpRead c = .error e c' ∧ c.inner.feedBytes data = .error e c'.inner ∧
        (c'.inner.Shut ↔ c.inner.closed ∧ cause ≠ .decompression) := by
  have hfeed : c.inner.feedBytes data =
      (PacketStream.feedBytes data c.inner.packetStream).mapState c.inner.setStream := rfl
  constructor
  · intro e inner h
    rw [hfeed] at h
    cases hf : PacketStream.feedBytes data c.inner.packetStream
    case error e s' => exact fails_of_error hf
    all_goals
      rw [hf] at h
      exact nomatch h
  · intro cause hfails hcause
    have ⟨e, s', hf, hemptied, hkept⟩ := hfails.error
    rw [hf] at hfeed
    refine ⟨e, (c.setSocket { st with incoming := rest }).setInner (c.inner.setStream s'), ?_, hfeed, ?_, ?_⟩
    · rw [pumpRead_data hs hi hd, hfeed]
      rfl
    · intro h
      refine ⟨Bool.not_eq_eq_eq_not.mp h.closed, fun hdec => hkept hdec h.emptied.buffer⟩
    · intro ⟨hc, hdec⟩
      exact MySQL.Connection.shut_of_closed hc (hemptied hcause hdec)

end

section Examples

attribute [local instance] Libraries.utf8Only

-- A packet with sequence number 5 where 0 is due.
def straggler : Bytes := [1, 0, 0, 5, 7]

def listening (closed : Bool) : Connection where
  inner := { MySQL.Connection.fresh {} ⟨45, "utf8mb4", true⟩ with closed := closed }
  stream := some ⟨[.ok straggler], [], [], none⟩
  transactionDirty := false

theorem straggler_fails (closed : Bool) :
    Fails straggler (listening closed).inner.packetStream .sequence := by
  have hp := PacketStream.parsePlainPackets_stuck (s := { PacketStream.new 16777216 with recvBuffer := straggler })
    0 (.nil _)
  exact .plain rfl hp rfl (.join (.sequence ⟨by decide, by decide, by decide⟩ (by decide)))

theorem straggler_closed :
    ∃ e c', pumpRead (listening true) = .error e c' ∧ c'.inner.Shut := by
  have ⟨_, h⟩ := pumpRead_violation (c := listening true) rfl rfl (by decide)
  have ⟨e, c', hp, _, hiff⟩ := h .sequence (straggler_fails true) nofun
  exact ⟨e, c', hp, hiff.mpr ⟨rfl, nofun⟩⟩

-- The connection is still open afterwards.
theorem straggler_leaves_open :
    ∃ e c', Fails straggler (listening false).inner.packetStream .sequence ∧
      pumpRead (listening false) = .error e c' ∧ c'.inner.isOpen = true := by
  have ⟨e, s', hf, _⟩ := (straggler_fails false).error
  have hfeed : (listening false).inner.feedBytes straggler =
      .error e ((listening false).inner.setStream s') := by
    rw [MySQL.Connection.feedBytes, MySQL.Connection.onStream_apply, hf]
    rfl
  let c' := ((listening false).setSocket ⟨[], [], [], none⟩).setInner ((listening false).inner.setStream s')
  refine ⟨e, c', straggler_fails false, ?_, rfl⟩
  rw [pumpRead_data (c := listening false) rfl rfl (by decide), hfeed]

end Examples
end Tokio.Connection
end MySQL
