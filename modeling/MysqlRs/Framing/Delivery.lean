import MysqlRs.Framing.Fragments

namespace MySQL.PacketStream

-- The bytes of consecutive payloads as one sender frames them, and the sequence number it is left with.
def framed (seq : UInt8) : List Bytes → Bytes
  | []      => []
  | p :: ps => (plainPackets seq p).1 ++ framed (plainPackets seq p).2 ps

def seqAfter (seq : UInt8) : List Bytes → UInt8
  | []      => seq
  | p :: ps => seqAfter (plainPackets seq p).2 ps

-- The number of payloads that are complete in the first `n` bytes of a framed sequence.
def arrived : List Bytes → Nat → Nat
  | [],      _ => 0
  | p :: ps, n => if frameLen p ≤ n then arrived ps (n - frameLen p) + 1 else 0

-- The first `n` bytes do not end between a full fragment and the end of the payload it belongs to.
def CleanCut : List Bytes → Nat → Prop
  | [],      _ => True
  | p :: ps, n => if frameLen p ≤ n then CleanCut ps (n - frameLen p) else n < 4 + maxPacketLen

-- What remains in the receive buffer: less than the first fragment of the next payload.
def Front (buffer : Bytes) : List Bytes → Prop
  | []     => buffer = []
  | p :: _ => buffer.length < firstFragmentLen p

instance CleanCut.decidable : (ps : List Bytes) → (n : Nat) → Decidable (CleanCut ps n)
  | [],      _ => .isTrue trivial
  | p :: ps, n => by
    rw [CleanCut]
    have := CleanCut.decidable ps (n - frameLen p)
    infer_instance

theorem arrived_le (ps : List Bytes) (n : Nat) : arrived ps n ≤ ps.length := by
  induction ps generalizing n
  case nil          => exact Nat.le_refl _
  case cons p ps ih =>
    rw [arrived]
    split
    · exact Nat.succ_le_succ (ih _)
    · exact Nat.zero_le _

theorem Front.cleanCut {buffer : Bytes} {ps : List Bytes} (h : Front buffer ps) : CleanCut ps buffer.length := by
  cases ps
  case nil       => trivial
  case cons p ps =>
    have := firstFragmentLen_le p
    rw [Front] at h
    rw [CleanCut, if_neg (by omega)]
    rw [firstFragmentLen] at h
    omega

-- Where no payload is split, every cut is clean.
theorem cleanCut_of_short {ps : List Bytes} (h : ∀ p ∈ ps, p.length < maxPacketLen) (n : Nat) :
    CleanCut ps n := by
  induction ps generalizing n
  case nil          => trivial
  case cons p ps ih =>
    have ⟨hp, hps⟩ := List.forall_mem_cons.mp h
    rw [CleanCut, frameLen_short hp]
    split
    · exact ih hps _
    · omega

theorem framed_append (seq : UInt8) (ps qs : List Bytes) :
    framed seq (ps ++ qs) = framed seq ps ++ framed (seqAfter seq ps) qs := by
  induction ps generalizing seq
  case nil       => rfl
  case cons _ ih => simp [framed, seqAfter, ih]

theorem frameLen_pos (payload : Bytes) : 0 < frameLen payload := by
  rw [frameLen]
  generalize payload.length / maxPacketLen = k
  omega

theorem framed_eq_nil {seq : UInt8} {ps : List Bytes} (h : framed seq ps = []) : ps = [] := by
  cases ps
  case nil       => rfl
  case cons p ps =>
    have := congrArg List.length h
    simp only [framed, List.length_append, plainPackets_length, List.length_nil] at this
    have := frameLen_pos p
    omega

theorem parsePlainPackets_stuck {s : PacketStream} {buffer : Bytes} (n : Nat)
    (h : Stuck s.maxAllowedPacket buffer) : parsePlainPackets buffer n s = .ok (n, buffer) s := by
  rw [parsePlainPackets]
  rcases h with h | ⟨hm, hb⟩
  · rw [dif_pos h]
  · simp only [Nat.not_lt.mpr hm, hb, dite_eq_ite, if_false, if_true, ite_self]

-- One round of the loop, entered because the first fragment is complete.
theorem parsePlainPackets_join {s s' : PacketStream} {chunk tail buff rest : Bytes} {seq : UInt8}
    (n : Nat) (hc : chunk.length ≤ maxPacketLen) (hm : chunk.length ≤ s.maxAllowedPacket.toNat)
    (hj : joinFragments [] (fragment seq chunk ++ tail) s = .ok (buff, rest) s') :
    parsePlainPackets (fragment seq chunk ++ tail) n s =
      if (MysqlPacket.new buff).isErrorPacket then .error (MysqlPacket.new buff).raiseForError s'
      else parsePlainPackets rest (n + 1)
        { s' with recvQueue := s'.recvQueue ++ [MysqlPacket.new buff] } := by
  have h₁ : ¬(fragment seq chunk ++ tail).length < 4 := by simp; omega
  have h₂ : ¬(fragment seq chunk ++ tail).length < 4 + chunk.length := by simp
  rw [parsePlainPackets]
  simp only [readInt3_fragment _ _ hc, h₁, h₂, Nat.not_lt.mpr hm, dite_false]
  split <;> simp_all

theorem stuck_of_front {s : PacketStream} {buffer more : Bytes} {ps : List Bytes}
    (h : buffer ++ more = framed s.nextSeqId ps)
    (fits : ∀ p ∈ ps, p.length ≤ s.maxAllowedPacket.toNat) (hf : Front buffer ps) :
    Stuck s.maxAllowedPacket buffer := by
  cases ps
  case nil =>
    rw [Front] at hf
    exact hf ▸ .nil _
  case cons p ps =>
    rw [Front] at hf
    have hl : buffer.length ≤ (plainPackets s.nextSeqId p).1.length := by
      rw [plainPackets_length]
      exact Nat.le_of_lt (Nat.lt_of_lt_of_le hf (firstFragmentLen_le p))
    have ⟨_, h', _⟩ := split_append_of_le hl h
    exact stuck_of_lt_firstFragment (fits p List.mem_cons_self) h'.symm hf

theorem parsePlainPackets_payload {s : PacketStream} (n : Nat) (p tail : Bytes)
    (hm : p.length ≤ s.maxAllowedPacket.toNat) :
    parsePlainPackets ((plainPackets s.nextSeqId p).1 ++ tail) n s =
      let s' := { s with nextSeqId := (plainPackets s.nextSeqId p).2 }
      if (MysqlPacket.new p).isErrorPacket then .error (MysqlPacket.new p).raiseForError s'
      else parsePlainPackets tail (n + 1)
        { s' with recvQueue := s.recvQueue ++ [MysqlPacket.new p] } := by
  have hj := joinFragments_payload [] p tail (by simpa using hm)
  have hl : firstFragmentLen p ≤ (plainPackets s.nextSeqId p).1.length :=
    plainPackets_length .. ▸ firstFragmentLen_le p
  have ⟨tail', ht⟩ := first_fragment_of_le (List.append_nil _) hl
  rw [ht, List.append_assoc] at hj ⊢
  exact parsePlainPackets_join n (List.length_take_le ..) (Nat.le_trans (List.length_take_le' ..) hm) hj

-- Payloads that have arrived completely are queued, whatever comes behind them.
theorem parsePlainPackets_framed {s : PacketStream} (n : Nat) (ps : List Bytes) (tail : Bytes)
    (fits : ∀ p ∈ ps, p.length ≤ s.maxAllowedPacket.toNat)
    (he : ∀ p ∈ ps, ¬(MysqlPacket.new p).isErrorPacket) :
    parsePlainPackets (framed s.nextSeqId ps ++ tail) n s =
      parsePlainPackets tail (n + ps.length) {
        s with
        recvQueue := s.recvQueue ++ ps.map .new
        nextSeqId := seqAfter s.nextSeqId ps
      } := by
  induction ps generalizing n s
  case nil          => simp [framed, seqAfter]
  case cons p ps ih =>
    have ⟨hm, fits⟩ := List.forall_mem_cons.mp fits
    have ⟨hp, he⟩ := List.forall_mem_cons.mp he
    rw [framed, List.append_assoc, parsePlainPackets_payload n p _ hm]
    simp only [hp]
    refine (ih (s := {
      s with
      nextSeqId := (plainPackets s.nextSeqId p).2
      recvQueue := s.recvQueue ++ [MysqlPacket.new p]
    }) (n + 1) fits he).trans ?_
    simp [seqAfter, Nat.add_assoc, Nat.add_comm 1]

-- A full fragment with nothing behind it is queued as it stands.
theorem parsePlainPackets_fragment {s : PacketStream} (n : Nat) {chunk : Bytes} (hc : chunk.length = maxPacketLen)
    (hm : chunk.length ≤ s.maxAllowedPacket.toNat) (he : ¬(MysqlPacket.new chunk).isErrorPacket) :
    parsePlainPackets (fragment s.nextSeqId chunk) n s =
      .ok (n + 1, []) {
        s with
        recvQueue := s.recvQueue ++ [MysqlPacket.new chunk]
        nextSeqId := s.nextSeqId + 1
      } := by
  have hj : joinFragments [] (fragment s.nextSeqId chunk ++ []) s =
      .ok (chunk, []) { s with nextSeqId := s.nextSeqId + 1 } := by
    rw [joinFragments_fragment (Nat.le_of_eq hc) (by simpa using hm), if_neg (by omega), List.nil_append,
      joinFragments_stuck chunk (.nil _)]
  rw [← List.append_nil (fragment s.nextSeqId chunk), parsePlainPackets_join n (Nat.le_of_eq hc) hm hj,
    if_neg he]
  exact parsePlainPackets_stuck _ (.nil _)

-- A payload of which a full fragment but not the end has arrived is queued as it stands.
theorem parsePlainPackets_cut {s : PacketStream} {buffer more : Bytes} (n : Nat) (p : Bytes)
    (hm : p.length ≤ s.maxAllowedPacket.toNat)
    (h : buffer ++ more = (plainPackets s.nextSeqId p).1) (hb : buffer.length < frameLen p)
    (hf : firstFragmentLen p ≤ buffer.length) :
    ∃ q r b seq, p = q ++ r ∧ q ≠ [] ∧ b ++ more = (plainPackets seq r).1 ∧
      (plainPackets seq r).2 = (plainPackets s.nextSeqId p).2 ∧ b.length < firstFragmentLen r ∧
      parsePlainPackets buffer n s =
        let s' := { s with nextSeqId := seq }
        if (MysqlPacket.new q).isErrorPacket then .error (MysqlPacket.new q).raiseForError s'
        else .ok (n + 1, b) { s' with recvQueue := s.recvQueue ++ [MysqlPacket.new q] } := by
  have ⟨q, r, b, seq, hq, h', hs, hb', hne, hj⟩ :=
    joinFragments_cut [] p (by simpa using hm) h hb
  refine ⟨q, r, b, seq, hq, hne hf, h', hs, hb', ?_⟩
  have hr : r.length ≤ s.maxAllowedPacket.toNat := by simp [hq] at hm; omega
  have ⟨tail, ht⟩ := first_fragment_of_le h hf
  rw [ht] at hj ⊢
  rw [parsePlainPackets_join n (List.length_take_le ..) (Nat.le_trans (List.length_take_le' ..) hm) hj]
  congr 1
  exact parsePlainPackets_stuck _ (stuck_of_lt_firstFragment hr h' hb')

-- What one call of the loop makes of the front of a framed sequence that is cut cleanly.
theorem parsePlainPackets_clean {s : PacketStream} {buffer more : Bytes} (n : Nat) (ps : List Bytes)
    (h : buffer ++ more = framed s.nextSeqId ps)
    (fits : ∀ p ∈ ps, p.length ≤ s.maxAllowedPacket.toNat) (hc : CleanCut ps buffer.length)
    (he : ∀ p ∈ ps.take (arrived ps buffer.length), ¬(MysqlPacket.new p).isErrorPacket) :
    let k := arrived ps buffer.length
    ∃ b, b ++ more = framed (seqAfter s.nextSeqId (ps.take k)) (ps.drop k) ∧ Front b (ps.drop k) ∧
      parsePlainPackets buffer n s = .ok (n + k, b) {
        s with
        recvQueue := s.recvQueue ++ (ps.take k).map .new
        nextSeqId := seqAfter s.nextSeqId (ps.take k)
      } := by
  induction ps generalizing buffer n s
  case nil =>
    simp only [framed, List.append_eq_nil_iff] at h
    simp only [arrived, List.take_nil, List.drop_nil, seqAfter, framed, List.map_nil, List.append_nil]
    exact ⟨[], by simp [h], rfl, by rw [h.left, parsePlainPackets_stuck _ (.nil _)]; simp⟩
  case cons p ps ih =>
    have hm := fits p List.mem_cons_self
    rw [framed] at h
    rw [CleanCut] at hc
    rw [arrived] at he ⊢
    by_cases hp : frameLen p ≤ buffer.length
    case neg =>
      simp only [hp, if_false] at hc ⊢
      have hf : Front buffer (p :: ps) := by
        rw [Front, firstFragmentLen]
        by_cases hl : p.length < maxPacketLen
        · rw [frameLen_short hl] at hp
          omega
        · omega
      refine ⟨buffer, h, hf, ?_⟩
      rw [parsePlainPackets_stuck _ (stuck_of_front h fits hf)]
      simp [seqAfter]
    case pos =>
      simp only [hp, if_true, List.take_succ_cons, List.drop_succ_cons] at hc he ⊢
      obtain ⟨b, hb, h'⟩ := split_append_of_le (plainPackets_length .. ▸ hp) h.symm
      have hl := congrArg List.length hb
      rw [List.length_append, plainPackets_length] at hl
      have hl : b.length = buffer.length - frameLen p := by omega
      rw [← hl] at hc he ⊢
      obtain ⟨b', h₁, h₂, h₃⟩ := ih (n := n + 1) (s := {
        s with
        nextSeqId := (plainPackets s.nextSeqId p).2
        recvQueue := s.recvQueue ++ [MysqlPacket.new p]
      }) h'.symm (fun q hq => fits q (List.mem_cons_of_mem _ hq)) hc
        (fun q hq => he q (List.mem_cons_of_mem _ hq))
      refine ⟨b', h₁, h₂, ?_⟩
      have hne : ¬(MysqlPacket.new p).isErrorPacket := he p List.mem_cons_self
      rw [hb, parsePlainPackets_payload n p b hm]
      simp only [hne, h₃]
      simp [seqAfter, Nat.add_assoc, Nat.add_comm 1]

-- An error packet is raised ahead of the packets that were queued before it.
theorem parsePlainPackets_error {s : PacketStream} {buffer more : Bytes} (n : Nat) (ps : List Bytes)
    (e : Bytes) (es : List Bytes) (h : buffer ++ more = framed s.nextSeqId (ps ++ e :: es))
    (fits : ∀ p ∈ ps ++ e :: es, p.length ≤ s.maxAllowedPacket.toNat)
    (ha : ps.length < arrived (ps ++ e :: es) buffer.length)
    (hp : ∀ p ∈ ps, ¬(MysqlPacket.new p).isErrorPacket) (he : (MysqlPacket.new e).isErrorPacket) :
    parsePlainPackets buffer n s = .error (Error.raiseMysqlException e) {
      s with
      recvQueue := s.recvQueue ++ ps.map .new
      nextSeqId := seqAfter s.nextSeqId (ps ++ [e])
    } := by
  induction ps generalizing buffer n s
  case nil =>
    have hle : frameLen e ≤ buffer.length := by
      by_contra hle
      simp [arrived, hle] at ha
    have ⟨b, hb, _⟩ := split_append_of_le (plainPackets_length .. ▸ hle) h.symm
    rw [hb, parsePlainPackets_payload n e b (fits e (by simp))]
    simp [he, seqAfter, MysqlPacket.raiseForError]
  case cons p ps ih =>
    have hle : frameLen p ≤ buffer.length := by
      by_contra hle
      simp [arrived, hle] at ha
    have ⟨b, hb, h'⟩ := split_append_of_le (plainPackets_length .. ▸ hle) h.symm
    have hl := congrArg List.length hb
    rw [List.length_append, plainPackets_length] at hl
    have hl : b.length = buffer.length - frameLen p := by omega
    simp only [List.cons_append, arrived, hle, if_true, ← hl, List.length_cons] at ha
    have hne := hp p List.mem_cons_self
    rw [hb, parsePlainPackets_payload n p b (fits p (by simp))]
    simp only [hne]
    have := ih (n := n + 1) (s := {
      s with
      nextSeqId := (plainPackets s.nextSeqId p).2
      recvQueue := s.recvQueue ++ [MysqlPacket.new p]
    }) h'.symm (fun q hq => fits q (List.mem_cons_of_mem _ hq)) (by omega)
      (fun q hq => hp q (List.mem_cons_of_mem _ hq))
    simp [this, seqAfter]

end MySQL.PacketStream
