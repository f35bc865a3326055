import MysqlRs.Framing.Expecting

namespace MySQL.PacketStream

-- The bytes of payloads that are framed with sequence numbers of their own.
def frames : List (UInt8 × Bytes) → Bytes
  | []           => []
  | (seq, p) :: fs => (plainPackets seq p).1 ++ frames fs

def payloads (fs : List (UInt8 × Bytes)) : List Bytes :=
  fs.map Prod.snd

theorem frames_length (fs : List (UInt8 × Bytes)) : (frames fs).length = framedLen (payloads fs) := by
  induction fs
  case nil          => rfl
  case cons f fs ih => simp [frames, payloads, framedLen, plainPackets_length, ih]

theorem frames_ne_nil (f : UInt8 × Bytes) (fs : List (UInt8 × Bytes)) : frames (f :: fs) ≠ [] := by
  intro h
  have hl := congrArg List.length h
  have := frameLen_pos f.2
  simp only [frames_length, payloads, framedLen, List.map_cons, List.sum_cons, List.length_nil] at hl
  omega

theorem front_of_arrived {buffer : Bytes} {p : Bytes} {ps : List Bytes}
    (hc : CleanCut (p :: ps) buffer.length) (h : ¬frameLen p ≤ buffer.length) :
    Front buffer (p :: ps) := by
  rw [CleanCut, if_neg h] at hc
  rw [Front, firstFragmentLen]
  by_cases hp : p.length < maxPacketLen
  case pos =>
    rw [frameLen_short hp] at h
    omega
  case neg => omega

theorem front_of_frames {buffer more : Bytes} {fs : List (UInt8 × Bytes)} (h : buffer ++ more = frames fs)
    (hc : CleanCut (payloads fs) buffer.length) (ha : arrived (payloads fs) buffer.length = 0) :
    Front buffer (payloads fs) := by
  cases fs
  case nil          => exact (List.append_eq_nil_iff.mp h).left
  case cons f fs =>
    refine front_of_arrived hc fun hle => ?_
    rw [payloads, List.map_cons, arrived, if_pos hle] at ha
    cases ha

theorem stuck_of_frames {max : UInt64} {buffer more : Bytes} {fs : List (UInt8 × Bytes)}
    (h : buffer ++ more = frames fs) (fits : ∀ p ∈ payloads fs, p.length ≤ max.toNat)
    (hf : Front buffer (payloads fs)) : Stuck max buffer := by
  cases fs
  case nil =>
    rw [(List.append_eq_nil_iff.mp h).left]
    exact .nil _
  case cons f fs =>
    have hl : buffer.length ≤ (plainPackets f.1 f.2).1.length := by
      rw [plainPackets_length]
      exact Nat.le_of_lt (Nat.lt_of_lt_of_le hf (firstFragmentLen_le f.2))
    have ⟨_, h', _⟩ := split_append_of_le hl h
    exact stuck_of_lt_firstFragment (fits f.2 List.mem_cons_self) h'.symm hf

variable {s s' : PacketStream} {seq : UInt8} {p buffer more : Bytes} {fs : List (UInt8 × Bytes)}

-- A payload with the wrong sequence number is not accepted.
theorem parsePlainPackets_mismatch (tail : Bytes) (n : Nat) (hm : p.length ≤ s.maxAllowedPacket.toNat)
    (hs : seq ≠ s.nextSeqId) :
    ∃ e s', parsePlainPackets ((plainPackets seq p).1 ++ tail) n s = .error e s' := by
  have hl : firstFragmentLen p ≤ (plainPackets seq p).1.length :=
    plainPackets_length .. ▸ firstFragmentLen_le p
  obtain ⟨tail', ht⟩ := first_fragment_of_le (List.append_nil _) hl
  rw [ht, List.append_assoc]
  generalize tail' ++ tail = tail
  have hc : (p.take maxPacketLen).length ≤ maxPacketLen := List.length_take_le ..
  have hm : (p.take maxPacketLen).length ≤ s.maxAllowedPacket.toNat :=
    Nat.le_trans (List.length_take_le' ..) hm
  generalize p.take maxPacketLen = chunk at hc hm
  have h₁ : ¬(fragment seq chunk ++ tail).length < 4 := by simp; omega
  have h₂ : ¬(fragment seq chunk ++ tail).length < 4 + chunk.length := by simp
  have hj : ∃ e s', joinFragments [] (fragment seq chunk ++ tail) s = .error e s' := by
    rw [joinFragments]
    simp only [readInt3_fragment _ _ hc, h₁, h₂, Nat.not_lt.mpr hm, fragment_seq, if_false, ne_eq, hs,
      not_false_eq_true, if_true]
    exact ⟨_, _, rfl⟩
  obtain ⟨e, s', hj⟩ := hj
  refine ⟨e, s', ?_⟩
  rw [parsePlainPackets]
  simp only [readInt3_fragment _ _ hc, h₁, h₂, Nat.not_lt.mpr hm, dite_false]
  split <;> simp_all

theorem parsePlainPackets_idle {n m : Nat} {b : Bytes} (h : buffer ++ more = frames fs)
    (fits : ∀ p ∈ payloads fs, p.length ≤ s.maxAllowedPacket.toNat) (hf : Front buffer (payloads fs))
    (hok : parsePlainPackets buffer n s = .ok (m, b) s') : m = n ∧ b = buffer ∧ s' = s := by
  rw [parsePlainPackets_stuck _ (stuck_of_frames h fits hf)] at hok
  obtain ⟨hr, rfl⟩ := Outcome.ok.inj hok
  obtain ⟨rfl, rfl⟩ := Prod.mk.inj hr
  exact ⟨rfl, rfl, rfl⟩

-- What has been parsed without an error is what has arrived, whatever the sequence numbers are.
theorem parsePlainPackets_frames {n m : Nat} {b : Bytes} (h : buffer ++ more = frames fs)
    (fits : ∀ p ∈ payloads fs, p.length ≤ s.maxAllowedPacket.toNat)
    (hc : CleanCut (payloads fs) buffer.length)
    (hok : parsePlainPackets buffer n s = .ok (m, b) s') :
    let k := arrived (payloads fs) buffer.length
    m = n + k ∧ b ++ more = frames (fs.drop k) ∧ Front b (payloads (fs.drop k)) ∧
      buffer.length = framedLen ((payloads fs).take k) + b.length ∧
      ∃ seq, s' = { s with
        recvQueue := s.recvQueue ++ ((payloads fs).take k).map .new, nextSeqId := seq } := by
  induction fs generalizing buffer n s
  case nil =>
    have hb : buffer = [] := (List.append_eq_nil_iff.mp h).left
    obtain ⟨rfl, rfl, rfl⟩ := parsePlainPackets_idle h fits hb hok
    subst hb
    exact ⟨rfl, h, rfl, rfl, s'.nextSeqId, by simp [payloads]⟩
  case cons f fs ih =>
    obtain ⟨seq, p⟩ := f
    have hm := fits p List.mem_cons_self
    intro k
    have ha : k = if frameLen p ≤ buffer.length then
        arrived (payloads fs) (buffer.length - frameLen p) + 1 else 0 := rfl
    clear_value k
    change CleanCut (p :: payloads fs) buffer.length at hc
    by_cases hp : frameLen p ≤ buffer.length
    case neg =>
      have hf := front_of_arrived hc hp
      obtain ⟨rfl, rfl, rfl⟩ := parsePlainPackets_idle h fits hf hok
      obtain rfl := ha.trans (if_neg hp)
      exact ⟨rfl, h, hf, (Nat.zero_add _).symm, s'.nextSeqId, by simp⟩
    case pos =>
      change buffer ++ more = (plainPackets seq p).1 ++ frames fs at h
      have ⟨b₁, hb, h'⟩ := split_append_of_le (plainPackets_length .. ▸ hp) h.symm
      have hl := congrArg List.length hb
      rw [List.length_append, plainPackets_length] at hl
      have hl' : buffer.length - frameLen p = b₁.length := by omega
      rw [CleanCut, if_pos hp, hl'] at hc
      rw [if_pos hp, hl'] at ha
      by_cases hs : seq = s.nextSeqId
      case neg =>
        have ⟨_, _, he⟩ := parsePlainPackets_mismatch b₁ n hm hs
        rw [hb, he] at hok
        exact nomatch hok
      case pos =>
        rw [hs] at hb
        rw [hb, parsePlainPackets_payload n p b₁ hm] at hok
        simp only at hok
        split at hok
        case isTrue => exact nomatch hok
        case isFalse =>
          have ⟨hk, h₁, h₂, h₃, seq', h₄⟩ := ih (n := n + 1) (s := {
            s with
            nextSeqId := (plainPackets s.nextSeqId p).2
            recvQueue := s.recvQueue ++ [MysqlPacket.new p]
          }) h'.symm (fun q hq => fits q (List.mem_cons_of_mem _ hq)) hc hok
          subst ha
          refine ⟨by omega, h₁, h₂, ?_, seq', ?_⟩
          · simp only [payloads, List.map_cons, List.take_succ_cons, framedLen, List.sum_cons] at h₃ ⊢
            omega
          · rw [h₄]
            simp [payloads]

-- One payload has arrived, with the right sequence number.
theorem parsePlainPackets_frame (n : Nat) (h : buffer ++ more = frames ((s.nextSeqId, p) :: fs))
    (fits : ∀ q ∈ p :: payloads fs, q.length ≤ s.maxAllowedPacket.toNat)
    (hc : CleanCut (p :: payloads fs) buffer.length) (ha : arrived (p :: payloads fs) buffer.length = 1)
    (he : ¬(MysqlPacket.new p).isErrorPacket) :
    ∃ b, parsePlainPackets buffer n s = .ok (n + 1, b) {
      s with
      recvQueue := s.recvQueue ++ [.new p]
      nextSeqId := (plainPackets s.nextSeqId p).2
    } := by
  have hp : frameLen p ≤ buffer.length := by
    by_contra hp
    rw [arrived, if_neg hp] at ha
    cases ha
  change buffer ++ more = (plainPackets s.nextSeqId p).1 ++ frames fs at h
  obtain ⟨b, hb, h'⟩ := split_append_of_le (plainPackets_length .. ▸ hp) h.symm
  have hl := congrArg List.length hb
  rw [List.length_append, plainPackets_length] at hl
  have hl' : buffer.length - frameLen p = b.length := by omega
  rw [CleanCut, if_pos hp, hl'] at hc
  rw [arrived, if_pos hp, hl'] at ha
  have hf := front_of_frames h'.symm hc (Nat.succ.inj ha)
  rw [hb, parsePlainPackets_payload n p b (fits p List.mem_cons_self), if_neg he]
  exact ⟨b, parsePlainPackets_stuck _
    (stuck_of_frames h'.symm (fun q hq => fits q (List.mem_cons_of_mem _ hq)) hf)⟩

end MySQL.PacketStream
