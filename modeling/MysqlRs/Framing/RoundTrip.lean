import MysqlRs.Framing.Delivery

namespace MySQL.PacketStream

-- How a payload is cut: the last piece is the only short one, and it is empty at an exact multiple.
structure Pieces (payload : Bytes) (pieces : List Bytes) : Prop where
  joined : pieces.flatten = payload
  count  : pieces.length = payload.length / maxPacketLen + 1
  full   : ∀ c ∈ pieces.dropLast, c.length = maxPacketLen
  short  : ∀ c ∈ pieces.getLast?, c.length < maxPacketLen

-- The pieces on the wire, with consecutive sequence numbers that wrap at 256.
def numbered (seq : UInt8) (pieces : List Bytes) : Bytes :=
  (pieces.mapIdx fun i chunk => fragment (seq + UInt8.ofNat i) chunk).flatten

theorem numbered_cons (seq : UInt8) (chunk : Bytes) (pieces : List Bytes) :
    numbered seq (chunk :: pieces) = fragment seq chunk ++ numbered (seq + 1) pieces := by
  have hs (i : Nat) : seq + UInt8.ofNat (i + 1) = seq + 1 + UInt8.ofNat i := by
    rw [UInt8.ofNat_add, UInt8.add_assoc, UInt8.add_comm (UInt8.ofNat i)]
    rfl
  rw [numbered, List.mapIdx_cons, List.flatten_cons, numbered]
  simp only [hs]
  congr 2
  exact UInt8.add_zero seq

namespace Pieces

variable {payload chunk : Bytes} {pieces : List Bytes}

theorem ne_nil (h : Pieces payload pieces) : pieces ≠ [] :=
  List.ne_nil_of_length_eq_add_one h.count

theorem single (h : payload.length < maxPacketLen) : Pieces payload [payload] where
  joined := List.flatten_singleton
  count  := by rw [Nat.div_eq_of_lt h]; rfl
  full   := by simp
  short  := by simpa using h

theorem cons (hc : chunk.length = maxPacketLen) (h : Pieces payload pieces) :
    Pieces (chunk ++ payload) (chunk :: pieces) where
  joined := by rw [List.flatten_cons, h.joined]
  count  := by
    rw [List.length_cons, h.count, List.length_append, hc, Nat.add_div_left _ maxPacketLen_pos]
  full   := by
    rw [List.dropLast_cons_of_ne_nil h.ne_nil]
    exact List.forall_mem_cons.mpr ⟨hc, h.full⟩
  short  := by
    have ⟨last, hl⟩ := Option.ne_none_iff_exists'.mp (mt List.getLast?_eq_none_iff.mp h.ne_nil)
    have hs := h.short
    rw [List.getLast?_cons, hl, Option.getD_some]
    rwa [hl] at hs

end Pieces

theorem plainPackets_pieces (seq : UInt8) (payload : Bytes) :
    ∃ pieces, Pieces payload pieces ∧
      plainPackets seq payload = (numbered seq pieces, seq + UInt8.ofNat pieces.length) := by
  induction payload using payload_induction generalizing seq
  case short p h =>
    refine ⟨[p], .single h, ?_⟩
    rw [plainPackets_short h, numbered_cons]
    simp [numbered]
  case long p h ih =>
    have ⟨pieces, hp, hs⟩ := ih (seq + 1)
    have hc : (p.take maxPacketLen).length = maxPacketLen := by simp [h]
    have hp := hp.cons hc
    rw [List.take_append_drop] at hp
    refine ⟨_, hp, ?_⟩
    rw [plainPackets_long h, hs, numbered_cons, List.length_cons, UInt8.ofNat_add, UInt8.add_assoc,
      UInt8.add_comm (UInt8.ofNat pieces.length)]
    rfl

-- What a reader in step with the writer makes of a packet and of the start of the one behind it.
theorem parsePlainPackets_buildPlainPackets {w r : PacketStream} {payload tail : Bytes} (n : Nat)
    (hs : r.nextSeqId = w.nextSeqId) (hp : payload.head? ≠ some 0xFF)
    (hm : payload.length ≤ r.maxAllowedPacket.toNat) (ht : Stuck r.maxAllowedPacket tail) :
    ∃ pieces w', Pieces payload pieces ∧
      buildPlainPackets payload w = .ok (numbered w.nextSeqId pieces) w' ∧
      parsePlainPackets (numbered w.nextSeqId pieces ++ tail) n r = .ok (n + 1, tail) {
        r with
        recvQueue := r.recvQueue ++ [MysqlPacket.new payload]
        nextSeqId := w'.nextSeqId
      } := by
  have ⟨pieces, hc, he⟩ := plainPackets_pieces w.nextSeqId payload
  refine ⟨pieces, _, hc, by rw [buildPlainPackets, he], ?_⟩
  have hne : (MysqlPacket.new payload).isErrorPacket = false := decide_eq_false hp
  have := parsePlainPackets_payload n payload tail hm
  rw [hs, he] at this
  simp only [this, hne]
  exact parsePlainPackets_stuck _ ht

-- A payload that ends with an empty fragment, and behind it a packet of which a byte is missing.
theorem fullPiece_roundTrip :
    ∃ pieces w', Pieces (List.replicate maxPacketLen 1) pieces ∧
      buildPlainPackets (List.replicate maxPacketLen 1) { new 0 with nextSeqId := 255 } =
        .ok (numbered 255 pieces) w' ∧
      parsePlainPackets (numbered 255 pieces ++ [2, 0, 0, 1, 7]) 0
        { new 0x1000000 with nextSeqId := 255 } = .ok (1, [2, 0, 0, 1, 7]) {
          { new 0x1000000 with nextSeqId := 255 } with
          recvQueue := [MysqlPacket.new (List.replicate maxPacketLen 1)]
          nextSeqId := w'.nextSeqId
        } :=
  parsePlainPackets_buildPlainPackets 0 rfl (by rw [List.head?_replicate]; decide)
    (by rw [List.length_replicate]; decide) (.inr (by decide))

end MySQL.PacketStream
