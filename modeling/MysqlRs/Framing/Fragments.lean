import MysqlRs.Core.PacketStream

namespace MySQL.PacketStream

theorem maxPacketLen_pos : 0 < maxPacketLen := by
  decide

theorem maxPacketLen_lt : maxPacketLen < 256 ^ 3 := by
  decide

theorem readInt3_writeInt3 {n : Nat} (h : n ≤ maxPacketLen) (bs : Bytes) :
    readInt3 (writeInt3 n ++ bs) = n := by
  rw [readInt3, writeInt3, LittleEndian.take_encode_append]
  exact LittleEndian.decode_encode_of_lt (Nat.lt_of_le_of_lt h maxPacketLen_lt)

section Fragment

variable (seq : UInt8) (chunk : Bytes)

@[simp]
theorem fragment_length : (fragment seq chunk).length = 4 + chunk.length := by
  simp [fragment, writeInt3]
  omega

theorem readInt3_fragment (h : chunk.length ≤ maxPacketLen) (tail : Bytes) :
    readInt3 (fragment seq chunk ++ tail) = chunk.length := by
  simp only [fragment, List.append_assoc]
  exact readInt3_writeInt3 h _

theorem fragment_drop_four (tail : Bytes) : (fragment seq chunk ++ tail).drop 4 = chunk ++ tail := by
  have : fragment seq chunk ++ tail = (writeInt3 chunk.length ++ [seq]) ++ (chunk ++ tail) := by
    simp [fragment]
  rw [this, List.drop_append_of_le_length (by simp [writeInt3])]
  simp [writeInt3]

theorem fragment_seq (tail : Bytes) : (fragment seq chunk ++ tail).getD 3 0 = seq := by
  have : fragment seq chunk ++ tail = writeInt3 chunk.length ++ (seq :: (chunk ++ tail)) := by
    simp [fragment]
  simp [this, List.getD_eq_getElem?_getD, writeInt3]

end Fragment

-- Where a shorter string is the front of an append.
theorem split_append_of_le {a b c d : Bytes} (hl : a.length ≤ c.length) (h : a ++ b = c ++ d) :
    ∃ e, c = a ++ e ∧ b = e ++ d := by
  rcases List.append_eq_append_iff.mp h with ⟨e, h₁, h₂⟩ | ⟨e, h₁, h₂⟩
  · exact ⟨e, h₁, h₂⟩
  · rw [h₁, List.length_append] at hl
    have he : e = [] := List.length_eq_zero_iff.mp (by omega)
    exact ⟨[], by simp_all⟩

-- A buffer whose first fragment has not arrived completely.
def Stuck (max : UInt64) (buffer : Bytes) : Prop :=
  buffer.length < 4 ∨ readInt3 buffer ≤ max.toNat ∧ buffer.length < 4 + readInt3 buffer

theorem Stuck.nil (max : UInt64) : Stuck max [] :=
  .inl (by simp)

theorem Stuck.fragment_prefix {max : UInt64} {seq : UInt8} {chunk buffer more : Bytes}
    (hc : chunk.length ≤ maxPacketLen) (hm : chunk.length ≤ max.toNat)
    (h : buffer ++ more = fragment seq chunk) (hb : buffer.length < 4 + chunk.length) :
    Stuck max buffer := by
  by_cases h4 : buffer.length < 4
  · exact .inl h4
  · have hr : readInt3 buffer = chunk.length := by
      rw [← readInt3_fragment seq chunk hc [], List.append_nil, ← h, readInt3, readInt3,
        List.take_append_of_le_length (by omega)]
    exact .inr (hr ▸ ⟨hm, hb⟩)

theorem joinFragments_stuck {s : PacketStream} {buffer : Bytes} (buff : Bytes)
    (h : Stuck s.maxAllowedPacket buffer) : joinFragments buff buffer s = .ok (buff, buffer) s := by
  rw [joinFragments]
  rcases h with h | ⟨hm, hb⟩
  · rw [if_pos h]
  · simp only [Nat.not_lt.mpr hm, hb, if_false, if_true, ite_self]

theorem joinFragments_fragment {s : PacketStream} {buff chunk tail : Bytes}
    (hc : chunk.length ≤ maxPacketLen)
    (hm : buff.length + chunk.length ≤ s.maxAllowedPacket.toNat) :
    joinFragments buff (fragment s.nextSeqId chunk ++ tail) s =
      if chunk.length < maxPacketLen then
        .ok (buff ++ chunk, tail) { s with nextSeqId := s.nextSeqId + 1 }
      else
        joinFragments (buff ++ chunk) tail { s with nextSeqId := s.nextSeqId + 1 } := by
  have hl : ¬(fragment s.nextSeqId chunk ++ tail).length < 4 := by simp; omega
  have hf : ¬(fragment s.nextSeqId chunk ++ tail).length < 4 + chunk.length := by simp
  have hd : (fragment s.nextSeqId chunk ++ tail).drop (4 + chunk.length) = tail := by
    rw [← List.drop_drop, fragment_drop_four]
    simp
  have ht : ((fragment s.nextSeqId chunk ++ tail).drop 4).take chunk.length = chunk := by
    rw [fragment_drop_four]
    simp
  rw [joinFragments]
  simp only [readInt3_fragment _ _ hc, hl, hf, fragment_seq, hd, ht, if_false, ne_eq,
    not_true_eq_false, show ¬s.maxAllowedPacket.toNat < chunk.length by omega,
    show ¬s.maxAllowedPacket.toNat < min (buff.length + chunk.length) usizeMax by omega]

section Payload

theorem plainPackets_short {seq : UInt8} {payload : Bytes} (h : payload.length < maxPacketLen) :
    plainPackets seq payload = (fragment seq payload, seq + 1) := by
  rw [plainPackets]
  simp [List.take_of_length_le (Nat.le_of_lt h), h]

theorem plainPackets_long {seq : UInt8} {payload : Bytes} (h : maxPacketLen ≤ payload.length) :
    plainPackets seq payload =
      (fragment seq (payload.take maxPacketLen) ++
        (plainPackets (seq + 1) (payload.drop maxPacketLen)).1,
        (plainPackets (seq + 1) (payload.drop maxPacketLen)).2) := by
  conv => lhs; rw [plainPackets]
  simp [h]

-- The recursion of `plainPackets`: a payload is short, or a full chunk and another payload.
theorem payload_induction {P : Bytes → Prop} (short : ∀ p, p.length < maxPacketLen → P p)
    (long : ∀ p, maxPacketLen ≤ p.length → P (p.drop maxPacketLen) → P p) (p : Bytes) : P p := by
  induction hn : p.length using Nat.strongRecOn generalizing p
  case ind n ih =>
    by_cases h : p.length < maxPacketLen
    case pos => exact short p h
    case neg =>
      have hd : (p.drop maxPacketLen).length < n := by
        have := maxPacketLen_pos
        simp only [List.length_drop]
        omega
      exact long p (Nat.le_of_not_lt h) (ih _ hd _ rfl)

-- The number of bytes a payload takes on the wire.
def frameLen (payload : Bytes) : Nat :=
  payload.length + 4 * (payload.length / maxPacketLen + 1)

-- The bytes that make up the first fragment of a payload.
def firstFragmentLen (payload : Bytes) : Nat :=
  4 + min payload.length maxPacketLen

theorem frameLen_short {payload : Bytes} (h : payload.length < maxPacketLen) :
    frameLen payload = 4 + payload.length := by
  rw [frameLen, Nat.div_eq_of_lt h]
  omega

theorem frameLen_long {payload : Bytes} (h : maxPacketLen ≤ payload.length) :
    frameLen payload = 4 + maxPacketLen + frameLen (payload.drop maxPacketLen) := by
  have hd : payload.length / maxPacketLen = (payload.length - maxPacketLen) / maxPacketLen + 1 :=
    Nat.div_eq_sub_div maxPacketLen_pos h
  rw [frameLen, frameLen, List.length_drop, hd]
  omega

theorem firstFragmentLen_le (payload : Bytes) : firstFragmentLen payload ≤ frameLen payload := by
  rw [firstFragmentLen, frameLen]
  generalize payload.length / maxPacketLen = k
  omega

theorem plainPackets_length (seq : UInt8) (payload : Bytes) :
    (plainPackets seq payload).1.length = frameLen payload := by
  induction payload using payload_induction generalizing seq
  case short p h   => simp [plainPackets_short h, frameLen_short h]
  case long p h ih => simp [plainPackets_long h, frameLen_long h, ih, h]

theorem stuck_of_lt_firstFragment {max : UInt64} {seq : UInt8} {payload buffer more : Bytes}
    (hm : payload.length ≤ max.toNat) (h : buffer ++ more = (plainPackets seq payload).1)
    (hb : buffer.length < firstFragmentLen payload) : Stuck max buffer := by
  rw [firstFragmentLen] at hb
  by_cases hp : payload.length < maxPacketLen
  case pos =>
    rw [plainPackets_short hp] at h
    exact Stuck.fragment_prefix (Nat.le_of_lt hp) hm h (by omega)
  case neg =>
    have hp := Nat.le_of_not_lt hp
    have hc : (payload.take maxPacketLen).length = maxPacketLen := by simp [hp]
    rw [plainPackets_long hp] at h
    have ⟨_, h', _⟩ := split_append_of_le (by simp; omega) h
    exact Stuck.fragment_prefix (by omega) (by omega) h'.symm (by omega)

theorem joinFragments_payload {s : PacketStream} (buff payload tail : Bytes)
    (hm : buff.length + payload.length ≤ s.maxAllowedPacket.toNat) :
    joinFragments buff ((plainPackets s.nextSeqId payload).1 ++ tail) s =
      .ok (buff ++ payload, tail)
        { s with nextSeqId := (plainPackets s.nextSeqId payload).2 } := by
  induction payload using payload_induction generalizing buff s
  case short p h =>
    rw [plainPackets_short h, joinFragments_fragment (Nat.le_of_lt h) hm, if_pos h]
  case long p h ih =>
    have hc : (p.take maxPacketLen).length = maxPacketLen := by simp [h]
    rw [plainPackets_long h, List.append_assoc, joinFragments_fragment (by omega) (by omega),
      if_neg (by omega)]
    have hm' : (buff ++ p.take maxPacketLen).length + (p.drop maxPacketLen).length ≤
        s.maxAllowedPacket.toNat := by simp; omega
    rw [ih (s := { s with nextSeqId := s.nextSeqId + 1 }) _ hm', List.append_assoc,
      List.take_append_drop]

-- The front of a payload's bytes starts with its first fragment as soon as that has arrived.
theorem first_fragment_of_le {seq : UInt8} {payload buffer more : Bytes}
    (h : buffer ++ more = (plainPackets seq payload).1)
    (hb : firstFragmentLen payload ≤ buffer.length) :
    ∃ tail, buffer = fragment seq (payload.take maxPacketLen) ++ tail := by
  have hf : (fragment seq (payload.take maxPacketLen)).length = firstFragmentLen payload := by
    simp [firstFragmentLen, Nat.min_comm]
  by_cases hp : payload.length < maxPacketLen
  case pos =>
    rw [plainPackets_short hp, ← List.append_nil (fragment seq payload)] at h
    rw [List.take_of_length_le (Nat.le_of_lt hp)] at hf ⊢
    exact split_append_of_le (by omega) h.symm |>.imp fun _ ht => ht.left
  case neg =>
    rw [plainPackets_long (Nat.le_of_not_lt hp)] at h
    exact split_append_of_le (by omega) h.symm |>.imp fun _ ht => ht.left

-- A payload of which only a part has arrived is cut after its last complete fragment.
theorem joinFragments_cut {s : PacketStream} {buffer more : Bytes} (buff payload : Bytes)
    (hm : buff.length + payload.length ≤ s.maxAllowedPacket.toNat)
    (h : buffer ++ more = (plainPackets s.nextSeqId payload).1)
    (hb : buffer.length < frameLen payload) :
    ∃ q r b seq, payload = q ++ r ∧ b ++ more = (plainPackets seq r).1 ∧
      (plainPackets seq r).2 = (plainPackets s.nextSeqId payload).2 ∧
      b.length < firstFragmentLen r ∧ (firstFragmentLen payload ≤ buffer.length → q ≠ []) ∧
      joinFragments buff buffer s = .ok (buff ++ q, b) { s with nextSeqId := seq } := by
  induction payload using payload_induction generalizing buff buffer s
  case short p hp =>
    have hf : buffer.length < firstFragmentLen p := by
      rw [frameLen_short hp] at hb
      rw [firstFragmentLen]
      omega
    have hs := stuck_of_lt_firstFragment (Nat.le_of_add_left_le hm) h hf
    exact ⟨[], p, buffer, s.nextSeqId, rfl, h, rfl, hf, by omega,
      by simp [joinFragments_stuck buff hs]⟩
  case long p hp ih =>
    by_cases hf : buffer.length < firstFragmentLen p
    case pos =>
      have hs := stuck_of_lt_firstFragment (Nat.le_of_add_left_le hm) h hf
      exact ⟨[], p, buffer, s.nextSeqId, rfl, h, rfl, hf, by omega,
        by simp [joinFragments_stuck buff hs]⟩
    case neg =>
      have hc : (p.take maxPacketLen).length = maxPacketLen := by simp [hp]
      have hd : (p.drop maxPacketLen).length = p.length - maxPacketLen := List.length_drop
      have ⟨b, hb'⟩ := first_fragment_of_le h (Nat.le_of_not_lt hf)
      rw [plainPackets_long hp, hb', List.append_assoc, List.append_cancel_left_eq] at h
      have hl := congrArg List.length hb'
      rw [List.length_append, fragment_length, hc] at hl
      rw [frameLen_long hp] at hb
      have hm' : (buff ++ p.take maxPacketLen).length + (p.drop maxPacketLen).length ≤
          s.maxAllowedPacket.toNat := by rw [List.length_append]; omega
      have ⟨q, r, b', seq, hq, h₁, h₂, h₃, _, hj⟩ :=
        ih (s := { s with nextSeqId := s.nextSeqId + 1 }) _ hm' h (by omega)
      refine ⟨p.take maxPacketLen ++ q, r, b', seq, ?_, h₁, ?_, h₃, fun _ => ?_, ?_⟩
      · rw [List.append_assoc, ← hq, List.take_append_drop]
      · rw [h₂, plainPackets_long hp]
      · have := maxPacketLen_pos
        exact List.ne_nil_of_length_pos (by rw [List.length_append]; omega)
      · rw [hb', joinFragments_fragment (by omega) (by omega), if_neg (by omega), hj,
          List.append_assoc]

end Payload
end MySQL.PacketStream
