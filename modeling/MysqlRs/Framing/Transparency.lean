import MysqlRs.Framing.Compression

namespace MySQL.PacketStream

section Parsing

variable {s s' t : PacketStream} {buff buffer : Bytes}

-- Where parsing succeeds, it depends on and changes the queue and the sequence number only.
theorem joinFragments_agrees {r : Bytes × Bytes} (hs : t.nextSeqId = s.nextSeqId)
    (hm : t.maxAllowedPacket = s.maxAllowedPacket) (h : joinFragments buff buffer s = .ok r s') :
    s' = { s with nextSeqId := s'.nextSeqId } ∧
      joinFragments buff buffer t = .ok r { t with nextSeqId := s'.nextSeqId } := by
  fun_induction joinFragments buff buffer s generalizing t
  case case1 hb =>
    cases h
    exact ⟨rfl, by rw [joinFragments, if_pos hb, ← hs]⟩
  case case3 s hb _ _ hl hc =>
    obtain ⟨rfl, rfl⟩ := Outcome.ok.inj h
    refine ⟨rfl, ?_⟩
    rw [← hs]
    exact joinFragments_stuck _ (.inr ⟨hm ▸ Nat.le_of_not_lt hl, hc⟩)
  case case6 s hb _ _ hl hc _ hn _ hj _ _ hf =>
    obtain ⟨rfl, hs'⟩ := Outcome.ok.inj h
    subst hs'
    have hw : Whole _ t := ⟨Nat.le_of_not_lt hb, hm ▸ Nat.le_of_not_lt hl, Nat.le_of_not_lt hc⟩
    rw [joinFragments_whole hw, hs, if_neg hn, hm, if_neg hj, if_pos hf]
    exact ⟨rfl, rfl⟩
  case case7 s hb _ _ hl hc _ hn _ hj _ _ hf ih =>
    have hw : Whole _ t := ⟨Nat.le_of_not_lt hb, hm ▸ Nat.le_of_not_lt hl, Nat.le_of_not_lt hc⟩
    obtain ⟨h₁, h₂⟩ := ih (t := { t with nextSeqId := t.nextSeqId + 1 }) (congrArg (· + 1) hs) hm h
    rw [joinFragments_whole hw, hs, if_neg hn, hm, if_neg hj, if_neg hf]
    rw [hs, hm] at h₂
    exact ⟨h₁, h₂⟩
  all_goals cases h

theorem parsePlainPackets_agrees {n : Nat} {r : Nat × Bytes} (hs : t.nextSeqId = s.nextSeqId)
    (hm : t.maxAllowedPacket = s.maxAllowedPacket) (hq : t.recvQueue = s.recvQueue)
    (h : parsePlainPackets buffer n s = .ok r s') :
    s' = { s with recvQueue := s'.recvQueue, nextSeqId := s'.nextSeqId } ∧
      parsePlainPackets buffer n t =
        .ok r { t with recvQueue := s'.recvQueue, nextSeqId := s'.nextSeqId } := by
  fun_induction parsePlainPackets buffer n s generalizing t
  case case1 s hb =>
    cases h
    refine ⟨rfl, ?_⟩
    rw [← hs, ← hq]
    exact parsePlainPackets_stuck _ (.inl hb)
  case case3 s hb _ _ hl hc =>
    obtain ⟨rfl, rfl⟩ := Outcome.ok.inj h
    refine ⟨rfl, ?_⟩
    rw [← hs, ← hq]
    exact parsePlainPackets_stuck _ (.inr ⟨hm ▸ Nat.le_of_not_lt hl, hc⟩)
  case case5 s hb _ _ hl hc buff _ s₁ hj _ he ih =>
    have hw : Whole _ t := ⟨Nat.le_of_not_lt hb, hm ▸ Nat.le_of_not_lt hl, Nat.le_of_not_lt hc⟩
    obtain ⟨h₁, h₂⟩ := joinFragments_agrees hs hm hj
    have hm₁ := congrArg maxAllowedPacket h₁
    have hq₁ := congrArg recvQueue h₁
    rw [parsePlainPackets_whole _ hw, h₂, Outcome.bind_ok, if_neg he, hq]
    obtain ⟨h₃, h₄⟩ := ih (t := { t with nextSeqId := s₁.nextSeqId, recvQueue := s.recvQueue ++ [.new buff] })
      rfl (hm.trans hm₁.symm) (by rw [hq₁]) h
    refine ⟨?_, h₄⟩
    rw [h₁] at h₃
    exact h₃
  all_goals cases h

theorem parsePlainPackets_length_le {n : Nat} {r : Nat × Bytes} (h : parsePlainPackets buffer n s = .ok r s') :
    r.2.length ≤ buffer.length := by
  fun_induction parsePlainPackets buffer n s
  case case1 | case3           => cases h; exact Nat.le_refl _
  case case5 _ _ _ _ hj _ _ ih => exact Nat.le_trans (ih h) (joinFragments_length_le hj)
  all_goals cases h

end Parsing

section

variable [Zlib]

section Feeding

variable {s s' t : PacketStream} {cs fs : List Bytes} {chunk f : Bytes} {next : UInt8}

theorem feedBytes_compressed (hc : s.compressed) (hb : s.recvBuffer = [])
    (h : Compressed s.nextCompressedSeqId cs fs next)
    (hm : s.decompressedBuffer.length + cs.flatten.length ≤ s.maxAllowedPacket.toNat) :
    feedBytes fs.flatten s =
      (parsePlainPackets (s.decompressedBuffer ++ cs.flatten) 0
        { s with decompressedBuffer := [], nextCompressedSeqId := next }).bind
        fun r s' => .ok r.1 { s' with decompressedBuffer := r.2 } := by
  have hu : unpack fs.flatten s = .ok () {
      s with
      decompressedBuffer := s.decompressedBuffer ++ cs.flatten
      nextCompressedSeqId := next
    } := by
    have hf := feedCompressedPackets_ok (s := { s with recvBuffer := s.recvBuffer ++ fs.flatten }) h
      (by rw [hb, List.nil_append]) hm
    rw [← hb] at hf
    exact (if_pos hc).trans hf
  rw [feedBytes_eq, hu, Outcome.bind_ok]
  cases hp : parsePlainPackets (s.decompressedBuffer ++ cs.flatten) 0
    { s with decompressedBuffer := [], nextCompressedSeqId := next }
  case ok r s₂ =>
    have ⟨h₁, _⟩ := parsePlainPackets_agrees rfl rfl rfl hp
    have hc₂ : s₂.compressed := (congrArg compressed h₁).trans hc
    rw [Outcome.bind_ok, if_pos hc₂, Outcome.bind_ok]
  all_goals rfl

theorem feedBytes_tooLarge (hc : s.compressed) (hb : s.recvBuffer = [])
    (h : Compressed s.nextCompressedSeqId cs fs next)
    (hl : s.decompressedBuffer.length ≤ s.maxAllowedPacket.toNat)
    (hm : s.maxAllowedPacket.toNat < s.decompressedBuffer.length + cs.flatten.length) :
    ∃ e s', feedBytes fs.flatten s = .error e s' := by
  have hf := feedCompressedPackets_tooLarge (s := { s with recvBuffer := s.recvBuffer ++ fs.flatten }) h
    (by rw [hb, List.nil_append]) hl hm
  have ⟨e, s', hf, _⟩ := (Fails.compressed hc hf).error
  exact ⟨e, s', hf⟩

-- A compressed and an uncompressed stream that have got equally far.
structure Mirrors (s t : PacketStream) : Prop where
  compressed : s.compressed
  read       : s.recvBuffer = []
  fits       : s.decompressedBuffer.length ≤ s.maxAllowedPacket.toNat
  plain      : t.compressed = false
  inflated   : t.decompressedBuffer = []
  buffer     : t.recvBuffer = s.decompressedBuffer
  queue      : t.recvQueue = s.recvQueue
  seq        : t.nextSeqId = s.nextSeqId
  max        : t.maxAllowedPacket = s.maxAllowedPacket

-- What a compressed stream accepts, an uncompressed one accepts in the same pieces.
theorem Mirrors.feed (h : Mirrors s t) (hf : Compressed s.nextCompressedSeqId [chunk] [f] next) {n : Nat}
    (hs : feedBytes f s = .ok n s') :
    s'.nextCompressedSeqId = next ∧ ∃ t', feedBytes chunk t = .ok n t' ∧ Mirrors s' t' := by
  have hflat (b : Bytes) : [b].flatten = b := by simp
  by_cases hm : s.maxAllowedPacket.toNat < s.decompressedBuffer.length + [chunk].flatten.length
  case pos =>
    have ⟨_, _, he⟩ := feedBytes_tooLarge h.compressed h.read hf h.fits hm
    rw [hflat] at he
    exact nomatch hs.symm.trans he
  case neg =>
    have hm := Nat.le_of_not_lt hm
    have hb := feedBytes_compressed h.compressed h.read hf hm
    rw [hflat] at hb hm
    rw [hb] at hs
    have ⟨⟨m, rest⟩, s₁, hp, hs⟩ := Outcome.bind_eq_ok.mp hs
    obtain ⟨rfl, rfl⟩ := Outcome.ok.inj hs
    have ⟨h₁, h₂⟩ := parsePlainPackets_agrees (t := { t with recvBuffer := [] })
      (s := { s with decompressedBuffer := [], nextCompressedSeqId := next }) h.seq h.max h.queue hp
    have hmax := congrArg maxAllowedPacket h₁
    have hl := parsePlainPackets_length_le hp
    have ht : feedBytes chunk t =
        .ok m { t with recvBuffer := rest, recvQueue := s₁.recvQueue, nextSeqId := s₁.nextSeqId } := by
      rw [hflat] at h₂
      rw [feedBytes_plain h.plain h.inflated, h.buffer, h₂]
      rfl
    rw [hflat, List.length_append] at hl
    exact ⟨congrArg nextCompressedSeqId h₁, _, ht, {
      compressed := (congrArg PacketStream.compressed h₁).trans h.compressed
      read       := (congrArg recvBuffer h₁).trans h.read
      fits       := (Nat.le_trans hl hm).trans_eq (congrArg UInt64.toNat hmax.symm)
      plain      := h.plain
      inflated   := h.inflated
      buffer     := rfl
      queue      := rfl
      seq        := rfl
      max        := h.max.trans hmax.symm
    }⟩

theorem Mirrors.feedAll (h : Mirrors s t) (hf : Compressed s.nextCompressedSeqId cs fs next)
    (hs : feedAll fs s = .ok () s') : ∃ t', feedAll cs t = .ok () t' ∧ Mirrors s' t' := by
  generalize hseq : s.nextCompressedSeqId = seq at hf
  induction hf generalizing s t
  case nil =>
    cases hs
    exact ⟨t, rfl, h⟩
  case cons hl hc hd _ ih =>
    subst hseq
    have ⟨_, s₁, hs₁, hs⟩ := Outcome.bind_eq_ok.mp hs
    have ⟨hseq, t₁, ht₁, h₁⟩ := h.feed (.cons hl hc hd (.nil _)) hs₁
    have ⟨t', ht, h'⟩ := ih h₁ hs hseq
    exact ⟨t', by rw [PacketStream.feedAll, Proc.bind_apply, ht₁, Outcome.bind_ok, ht], h'⟩

end Feeding

section Payload

-- A compressed stream between two packets.
structure Between (s : PacketStream) : Prop where
  compressed : s.compressed
  read       : s.recvBuffer = []
  inflated   : s.decompressedBuffer = []

variable {s : PacketStream} {p chunk f : Bytes} {fs : List Bytes} {next : UInt8}

-- The rest of a payload arrives.
theorem feedBytes_last (hc : s.compressed) (hb : s.recvBuffer = [])
    (hf : Compressed s.nextCompressedSeqId [chunk] [f] next)
    (hd : s.decompressedBuffer ++ chunk = (plainPackets s.nextSeqId p).1)
    (hm : p.length ≤ s.maxAllowedPacket.toNat) (he : ¬(MysqlPacket.new p).isErrorPacket) :
    (frameLen p ≤ s.maxAllowedPacket.toNat → feedBytes f s = .ok 1 {
      s with
      decompressedBuffer := []
      recvQueue := s.recvQueue ++ [.new p]
      nextSeqId := (plainPackets s.nextSeqId p).2
      nextCompressedSeqId := next
    }) ∧
    (s.decompressedBuffer.length ≤ s.maxAllowedPacket.toNat → s.maxAllowedPacket.toNat < frameLen p →
      ∃ e s', feedBytes f s = .error e s') := by
  have hlen := congrArg List.length hd
  rw [plainPackets_length, List.length_append] at hlen
  have hcs : [chunk].flatten = chunk := List.flatten_singleton
  have hfs : [f].flatten = f := List.flatten_singleton
  constructor
  · intro hmax
    have hfeed := feedBytes_compressed hc hb hf (by rw [hcs, hlen]; exact hmax)
    rw [hcs, hfs, hd, ← List.append_nil (plainPackets _ _).1] at hfeed
    have hp := parsePlainPackets_payload (s := { s with decompressedBuffer := [], nextCompressedSeqId := next })
      0 p [] hm
    rw [hfeed, hp]
    simp only [he, if_false, parsePlainPackets_stuck _ (.nil _), Outcome.bind_ok, Bool.false_eq_true]
  · intro hl hmax
    rw [← hfs]
    exact feedBytes_tooLarge hc hb hf hl (by rw [hcs, hlen]; exact hmax)

-- A first chunk that does not contain the first fragment.
theorem feedBytes_first (hs : Between s) (hf : Compressed s.nextCompressedSeqId [chunk] [f] next)
    {more : Bytes} (hd : chunk ++ more = (plainPackets s.nextSeqId p).1)
    (hl : chunk.length < firstFragmentLen p) (hm : p.length ≤ s.maxAllowedPacket.toNat)
    (hmax : chunk.length ≤ s.maxAllowedPacket.toNat) :
    feedBytes f s = .ok 0 { s with decompressedBuffer := chunk, nextCompressedSeqId := next } := by
  have hcs : [chunk].flatten = chunk := List.flatten_singleton
  have hfs : [f].flatten = f := List.flatten_singleton
  have hfeed := feedBytes_compressed hs.compressed hs.read hf
    (by rw [hcs, hs.inflated, List.length_nil, Nat.zero_add]; exact hmax)
  rw [hcs, hfs, hs.inflated, List.nil_append] at hfeed
  have hp := parsePlainPackets_stuck (s := { s with decompressedBuffer := [], nextCompressedSeqId := next }) 0
    (stuck_of_lt_firstFragment hm hd hl)
  rw [hfeed, hp]
  rfl

-- A payload that is sent in two pieces at most arrives if and only if its frame is small enough.
theorem feedAll_payload (hs : Between s)
    (hf : Compressed s.nextCompressedSeqId (chunks maxPacketLen (plainPackets s.nextSeqId p).1) fs next)
    (hm : p.length ≤ s.maxAllowedPacket.toNat) (he : ¬(MysqlPacket.new p).isErrorPacket)
    (hl : frameLen p ≤ 2 * maxPacketLen) :
    (frameLen p ≤ s.maxAllowedPacket.toNat → feedAll fs s = .ok () {
      s with
      recvQueue := s.recvQueue ++ [.new p]
      nextSeqId := (plainPackets s.nextSeqId p).2
      nextCompressedSeqId := next
    }) ∧
    (s.maxAllowedPacket.toNat < frameLen p → ∃ e s', feedAll fs s = .error e s') := by
  have hne : (plainPackets s.nextSeqId p).1 ≠ [] := by
    rw [← List.length_pos_iff, plainPackets_length]
    exact frameLen_pos p
  by_cases h₁ : frameLen p ≤ maxPacketLen
  case pos =>
    rw [chunks_of_le hne (by rw [plainPackets_length]; exact h₁)] at hf
    cases hf
    case cons hc hz hd hn =>
      cases hn
      obtain ⟨hok, herr⟩ := feedBytes_last hs.compressed hs.read (.cons hc hz hd (.nil _))
        (by rw [hs.inflated, List.nil_append]) hm he
      rw [hs.inflated] at herr
      constructor
      · intro hmax
        rw [feedAll, Proc.bind_apply, hok hmax, Outcome.bind_ok, ← hs.inflated]
        rfl
      · intro hmax
        obtain ⟨e, s', herr⟩ := herr (Nat.zero_le _) hmax
        exact ⟨e, s', by rw [feedAll, Proc.bind_apply, herr, Outcome.bind_error]⟩
  case neg =>
    have hlen : (plainPackets s.nextSeqId p).1.length = frameLen p := plainPackets_length ..
    have hfirst : ((plainPackets s.nextSeqId p).1.take maxPacketLen).length = maxPacketLen := by
      rw [List.length_take, hlen]
      omega
    have hlast : ((plainPackets s.nextSeqId p).1.drop maxPacketLen).length = frameLen p - maxPacketLen := by
      rw [List.length_drop, hlen]
    have hfront : maxPacketLen < firstFragmentLen p := by
      rw [firstFragmentLen]
      by_cases hp : p.length < maxPacketLen
      case pos =>
        rw [frameLen_short hp] at h₁
        omega
      case neg => omega
    have hcut := List.take_append_drop maxPacketLen (plainPackets s.nextSeqId p).1
    rw [chunks_of_ne_nil (by decide) hne,
      chunks_of_le (List.ne_nil_of_length_pos (by omega)) (by omega)] at hf
    cases hf
    case cons hc₁ hz₁ hd₁ hn₁ =>
      cases hn₁
      case cons hc₂ hz₂ hd₂ hn₂ =>
        cases hn₂
        have hf₁ := Compressed.cons hc₁ hz₁ hd₁ (.nil (s.nextCompressedSeqId + 1))
        by_cases hmax : maxPacketLen ≤ s.maxAllowedPacket.toNat
        case pos =>
          have hok₁ := feedBytes_first hs hf₁ hcut (by rw [hfirst]; exact hfront) hm (by rw [hfirst]; exact hmax)
          obtain ⟨hok, herr⟩ := feedBytes_last (s := {
            s with
            decompressedBuffer := (plainPackets s.nextSeqId p).1.take maxPacketLen
            nextCompressedSeqId := s.nextCompressedSeqId + 1
          }) hs.compressed hs.read (.cons hc₂ hz₂ hd₂ (.nil _)) hcut hm he
          constructor
          · intro hmax
            simp only [feedAll, Proc.bind_apply, hok₁, Outcome.bind_ok, hok hmax, ← hs.inflated]
            rfl
          · intro hmax
            obtain ⟨e, s', herr⟩ := herr (by rw [hfirst]; assumption) hmax
            exact ⟨e, s', by simp only [feedAll, Proc.bind_apply, hok₁, Outcome.bind_ok, herr, Outcome.bind_error]⟩
        case neg =>
          obtain ⟨e, s', herr⟩ := feedBytes_tooLarge hs.compressed hs.read hf₁
            (by rw [hs.inflated]; exact Nat.zero_le _)
            (by rw [hs.inflated, List.flatten_singleton, hfirst, List.length_nil, Nat.zero_add]; omega)
          rw [List.flatten_singleton] at herr
          exact ⟨fun hmax => by omega, fun _ => ⟨e, s', by rw [feedAll, Proc.bind_apply, herr, Outcome.bind_error]⟩⟩

end Payload

section Elements

variable {s s' : PacketStream} {ps : List Bytes} {fs : List Bytes} {next : UInt8}

theorem Compressed.split {seq next : UInt8} {cs cs' fs : List Bytes} (h : Compressed seq (cs ++ cs') fs next) :
    ∃ fs₁ fs₂ mid, fs = fs₁ ++ fs₂ ∧ Compressed seq cs fs₁ mid ∧ Compressed mid cs' fs₂ next := by
  induction cs generalizing seq fs
  case nil          => exact ⟨[], fs, seq, rfl, .nil _, h⟩
  case cons c cs ih =>
    cases h
    case cons hl hc hd h =>
      have ⟨fs₁, fs₂, mid, hfs, h₁, h₂⟩ := ih h
      exact ⟨_ :: fs₁, fs₂, mid, by rw [hfs]; rfl, .cons hl hc hd h₁, h₂⟩

-- Where the pieces end cleanly, no payload is sent in more than two of them.
omit [Zlib] in
theorem frameLen_le_of_clean {seq : UInt8}
    (h : ∀ k, CleanCut ps ((plainChunks seq ps).take k).flatten.length) :
    ∀ p ∈ ps, frameLen p ≤ 2 * maxPacketLen := by
  induction ps generalizing seq
  case nil          => exact fun _ hp => nomatch hp
  case cons p ps ih =>
    have hlen : (plainPackets seq p).1.length = frameLen p := plainPackets_length ..
    have tail (k : Nat) : CleanCut ps ((plainChunks (plainPackets seq p).2 ps).take k).flatten.length := by
      have hk := h ((chunks maxPacketLen (plainPackets seq p).1).length + k)
      rw [plainChunks, List.take_length_add_append, List.flatten_append, chunks_flatten (by decide),
        List.length_append, hlen] at hk
      have := cleanCut_append [p] ps
      simp only [framedLen, List.map_cons, List.map_nil, List.sum_cons, List.sum_nil, Nat.add_zero] at this
      exact (this _).mp hk
    refine List.forall_mem_cons.mpr ⟨?_, ih tail⟩
    by_contra hp
    have hne {bytes : Bytes} (h : 0 < bytes.length) : chunks maxPacketLen bytes =
        bytes.take maxPacketLen :: chunks maxPacketLen (bytes.drop maxPacketLen) :=
      chunks_of_ne_nil (by decide) (List.ne_nil_of_length_pos h)
    have h₂ := h 2
    rw [plainChunks, hne (by omega), hne (by rw [List.length_drop]; omega)] at h₂
    simp only [List.cons_append, List.take_succ_cons, List.take_zero, List.flatten_cons, List.flatten_nil,
      List.append_nil, List.length_append, List.length_take, List.length_drop, hlen] at h₂
    have hcut : min maxPacketLen (frameLen p) + min maxPacketLen (frameLen p - maxPacketLen) =
        2 * maxPacketLen := by omega
    rw [hcut, CleanCut, if_neg hp, maxPacketLen] at h₂
    omega

theorem feedAll_elements (hs : Between s)
    (hf : Compressed s.nextCompressedSeqId (plainChunks s.nextSeqId ps) fs next)
    (fits : ∀ p ∈ ps, p.length ≤ s.maxAllowedPacket.toNat) (he : ∀ p ∈ ps, ¬(MysqlPacket.new p).isErrorPacket)
    (hl : ∀ p ∈ ps, frameLen p ≤ s.maxAllowedPacket.toNat ∧ frameLen p ≤ 2 * maxPacketLen) :
    ∃ s', feedAll fs s = .ok () s' ∧ s'.recvQueue = s.recvQueue ++ ps.map .new := by
  induction ps generalizing s fs
  case nil =>
    cases hf
    exact ⟨s, rfl, by simp⟩
  case cons p ps ih =>
    have ⟨hm, fits⟩ := List.forall_mem_cons.mp fits
    have ⟨hp, he⟩ := List.forall_mem_cons.mp he
    have ⟨⟨hmax, h₂⟩, hl⟩ := List.forall_mem_cons.mp hl
    have ⟨fs₁, fs₂, mid, hfs, hf₁, hf₂⟩ := hf.split
    have hok := (feedAll_payload hs hf₁ hm hp h₂).left hmax
    have ⟨s', hok', hq⟩ := ih (s := {
      s with
      recvQueue := s.recvQueue ++ [.new p]
      nextSeqId := (plainPackets s.nextSeqId p).2
      nextCompressedSeqId := mid
    }) ⟨hs.compressed, hs.read, hs.inflated⟩ hf₂ fits he hl
    refine ⟨s', ?_, by simp [hq]⟩
    rw [hfs, feedAll_append, hok, Outcome.bind_ok, hok']

theorem frameLen_le_of_ok (hs : Between s)
    (hf : Compressed s.nextCompressedSeqId (plainChunks s.nextSeqId ps) fs next)
    (fits : ∀ p ∈ ps, p.length ≤ s.maxAllowedPacket.toNat) (he : ∀ p ∈ ps, ¬(MysqlPacket.new p).isErrorPacket)
    (hl : ∀ p ∈ ps, frameLen p ≤ 2 * maxPacketLen) (hok : feedAll fs s = .ok () s') :
    ∀ p ∈ ps, frameLen p ≤ s.maxAllowedPacket.toNat := by
  induction ps generalizing s fs
  case nil          => exact fun _ hp => nomatch hp
  case cons p ps ih =>
    have ⟨hm, fits⟩ := List.forall_mem_cons.mp fits
    have ⟨hp, he⟩ := List.forall_mem_cons.mp he
    have ⟨h₂, hl⟩ := List.forall_mem_cons.mp hl
    have ⟨fs₁, fs₂, mid, hfs, hf₁, hf₂⟩ := hf.split
    have ⟨hok₁, herr⟩ := feedAll_payload hs hf₁ hm hp h₂
    rw [hfs, feedAll_append] at hok
    by_cases hmax : frameLen p ≤ s.maxAllowedPacket.toNat
    case neg =>
      have ⟨e, s₁, herr⟩ := herr (Nat.lt_of_not_le hmax)
      rw [herr, Outcome.bind_error] at hok
      exact nomatch hok
    case pos =>
      rw [hok₁ hmax, Outcome.bind_ok] at hok
      exact List.forall_mem_cons.mpr ⟨hmax, ih (s := {
        s with
        recvQueue := s.recvQueue ++ [.new p]
        nextSeqId := (plainPackets s.nextSeqId p).2
        nextCompressedSeqId := mid
      }) ⟨hs.compressed, hs.read, hs.inflated⟩ hf₂ fits he hl hok⟩

-- The payloads are received without an error, and nothing else is.
def Arrives (r : PacketStream) (ps pieces : List Bytes) : Prop :=
  ∃ r', feedAll pieces r = .ok () r' ∧ r'.recvQueue = ps.map .new

theorem arrives_elements_iff (hs : Between s) (hq : s.recvQueue = [])
    (hf : Compressed s.nextCompressedSeqId (plainChunks s.nextSeqId ps) fs next)
    (fits : ∀ p ∈ ps, p.length ≤ s.maxAllowedPacket.toNat) (he : ∀ p ∈ ps, ¬(MysqlPacket.new p).isErrorPacket) :
    Arrives s ps fs ↔ ∀ p ∈ ps, frameLen p ≤ s.maxAllowedPacket.toNat ∧ frameLen p ≤ 2 * maxPacketLen := by
  constructor
  · intro ⟨s', hok, hq'⟩
    let t := { s with compressed := false }
    have ht : Mirrors s t := {
      compressed := hs.compressed
      read       := hs.read
      fits       := by rw [hs.inflated]; exact Nat.zero_le _
      plain      := rfl
      inflated   := hs.inflated
      buffer     := hs.read.trans hs.inflated.symm
      queue      := rfl
      seq        := rfl
      max        := rfl
    }
    have ⟨t', hok', h'⟩ := ht.feedAll hf hok
    have hclean := clean_of_feedAll (s := t) ⟨rfl, hs.inflated, hs.read, hq⟩ fits he
      (plainChunks_flatten _ _) hok' (h'.queue.trans hq')
    have h₂ := frameLen_le_of_clean hclean
    exact fun p hp => ⟨frameLen_le_of_ok hs hf fits he h₂ hok p hp, h₂ p hp⟩
  · intro hl
    have ⟨s', hok, hq'⟩ := feedAll_elements hs hf fits he hl
    exact ⟨s', hok, by rw [hq', hq, List.nil_append]⟩

theorem arrives_piece_iff (hs : Between s) (hq : s.recvQueue = [])
    (hf : Compressed s.nextCompressedSeqId (plainChunks s.nextSeqId ps) fs next)
    (fits : ∀ p ∈ ps, p.length ≤ s.maxAllowedPacket.toNat) (he : ∀ p ∈ ps, ¬(MysqlPacket.new p).isErrorPacket) :
    Arrives s ps [fs.flatten] ↔ framedLen ps ≤ s.maxAllowedPacket.toNat := by
  have hlen : (plainChunks s.nextSeqId ps).flatten.length = framedLen ps := by
    rw [plainChunks_flatten, framed_length]
  constructor
  · intro ⟨s', hok, _⟩
    by_contra hmax
    obtain ⟨e, s₁, herr⟩ := feedBytes_tooLarge hs.compressed hs.read hf (by rw [hs.inflated]; exact Nat.zero_le _)
      (by rw [hs.inflated, hlen, List.length_nil]; omega)
    rw [feedAll, Proc.bind_apply, herr, Outcome.bind_error] at hok
    cases hok
  · intro hmax
    have hfeed := feedBytes_compressed hs.compressed hs.read hf
      (by rw [hs.inflated, hlen, List.length_nil]; omega)
    have hall : arrived ps (framed s.nextSeqId ps).length = ps.length := by
      rw [framed_length, arrived_framedLen]
    have hclean : CleanCut ps (framed s.nextSeqId ps).length := by
      rw [framed_length]
      exact cleanCut_framedLen ps
    obtain ⟨b, hb, _, hp⟩ := parsePlainPackets_clean
      (s := { s with decompressedBuffer := [], nextCompressedSeqId := next }) 0 ps (List.append_nil _) fits
      hclean fun p hp => he p (List.mem_of_mem_take hp)
    rw [hs.inflated, List.nil_append, plainChunks_flatten] at hfeed
    rw [hall, List.take_length] at hp
    have hok : feedAll [fs.flatten] s = .ok () {
        s with
        decompressedBuffer := b
        recvQueue := s.recvQueue ++ ps.map .new
        nextSeqId := seqAfter s.nextSeqId ps
        nextCompressedSeqId := next
      } := by
      rw [feedAll, Proc.bind_apply, hfeed, hp]
      rfl
    exact ⟨_, hok, by rw [hq, List.nil_append]⟩

end Elements

section Transparency

-- A sender and a receiver that have nothing in their queues and buffers, and the same sequence numbers.
structure Paired (s r : PacketStream) : Prop where
  seq           : r.nextSeqId = s.nextSeqId
  compressedSeq : r.nextCompressedSeqId = s.nextCompressedSeqId
  sent          : s.sendQueue = []
  read          : r.recvBuffer = []
  inflated      : r.decompressedBuffer = []
  queue         : r.recvQueue = []

def withCompression (compressed : Bool) (s : PacketStream) : PacketStream :=
  { s with compressed := compressed }

variable {s r : PacketStream} {ps : List Bytes}

-- Without compression, nothing is lost.
theorem arrives_plain (hr : Idle r) (fits : ∀ p ∈ ps, p.length ≤ r.maxAllowedPacket.toNat)
    (he : ∀ p ∈ ps, ¬(MysqlPacket.new p).isErrorPacket) :
    Arrives r ps [framed r.nextSeqId ps] ∧ Arrives r ps (framedList r.nextSeqId ps) := by
  have arrives {pieces : List Bytes} (hp : pieces.flatten = framed r.nextSeqId ps)
      (hc : ∀ k, CleanCut ps (pieces.take k).flatten.length) : Arrives r ps pieces := by
    have ⟨⟨r', hf, hq, _⟩, _⟩ := Received.of_clean hr fits he hp hc
    exact ⟨r', hf, hq⟩
  constructor
  · refine arrives List.flatten_singleton fun k => ?_
    cases k
    case zero   => exact cleanCut_zero ps
    case succ k =>
      rw [List.take_succ_cons, List.take_nil, List.flatten_singleton, framed_length]
      exact cleanCut_framedLen ps
  · refine arrives (framedList_flatten _ _) fun k => ?_
    have := cleanCut_framedLen_append (ps.take k) (ps.drop k)
    rw [List.take_append_drop] at this
    rw [framedList_take, framedList_flatten, framed_length]
    exact this

-- With compression, all that has been received counts towards the size limit.
theorem arrives_compressed_iff (h : Lossless) (hp : Paired s r)
    (fits : ∀ p ∈ ps, p.length ≤ r.maxAllowedPacket.toNat)
    (he : ∀ p ∈ ps, ¬(MysqlPacket.new p).isErrorPacket) :
    ∃ s', writePackets ps (s.withCompression true) = .ok () s' ∧
      (Arrives (r.withCompression true) ps [s'.sendQueue.flatten] ↔
        framedLen ps ≤ r.maxAllowedPacket.toNat) ∧
      (Arrives (r.withCompression true) ps s'.sendQueue ↔
        ∀ p ∈ ps, frameLen p ≤ r.maxAllowedPacket.toNat ∧ frameLen p ≤ 2 * maxPacketLen) := by
  have ⟨fs, next, hf, hs⟩ := writePackets_compressed h ps (s := s.withCompression true) rfl
  refine ⟨_, hs, ?_⟩
  have hq : (s.withCompression true).sendQueue ++ fs = fs := by
    rw [show (s.withCompression true).sendQueue = [] from hp.sent, List.nil_append]
  have hb : (r.withCompression true).Between := ⟨rfl, hp.read, hp.inflated⟩
  have hf : Compressed r.nextCompressedSeqId (plainChunks r.nextSeqId ps) fs next := by
    rw [hp.seq, hp.compressedSeq]
    exact hf
  rw [hq]
  exact ⟨arrives_piece_iff hb hp.queue hf fits he, arrives_elements_iff hb hp.queue hf fits he⟩

-- The size limit is meant for packets, and without compression packets are all that it is applied to. With
-- compression they are received just as well if and only if together they are small enough, or each of them is
-- where they are received one by one. A packet in more than two pieces is cut as it would be without compression
-- if it came in these pieces.
theorem transparent_iff (h : Lossless) (hp : Paired s r)
    (fits : ∀ p ∈ ps, p.length ≤ r.maxAllowedPacket.toNat)
    (he : ∀ p ∈ ps, ¬(MysqlPacket.new p).isErrorPacket) :
    (∃ s', writePackets ps (s.withCompression false) = .ok () s' ∧
      Arrives (r.withCompression false) ps [s'.sendQueue.flatten] ∧
      Arrives (r.withCompression false) ps s'.sendQueue) ∧
    ∃ s', writePackets ps (s.withCompression true) = .ok () s' ∧
      (Arrives (r.withCompression true) ps [s'.sendQueue.flatten] ↔
        framedLen ps ≤ r.maxAllowedPacket.toNat) ∧
      (Arrives (r.withCompression true) ps s'.sendQueue ↔
        ∀ p ∈ ps, frameLen p ≤ r.maxAllowedPacket.toNat ∧ frameLen p ≤ 2 * maxPacketLen) := by
  refine ⟨?_, arrives_compressed_iff h hp fits he⟩
  have hs := writePackets_plain ps (s := s.withCompression false) rfl
  have hq : (s.withCompression false).sendQueue ++ framedList (s.withCompression false).nextSeqId ps =
      framedList (r.withCompression false).nextSeqId ps := by
    rw [show (s.withCompression false).sendQueue = [] from hp.sent, List.nil_append]
    exact congrArg (framedList · ps) hp.seq.symm
  have hr : Idle (r.withCompression false) := ⟨rfl, hp.inflated, hp.read, hp.queue⟩
  refine ⟨_, hs, ?_⟩
  rw [hq, framedList_flatten]
  exact arrives_plain hr fits he

end Transparency
end

section Examples

def adler32 (bytes : Bytes) : Nat :=
  let (a, b) := bytes.foldl (fun (a, b) byte =>
    ((a + byte.toNat) % 65521, (b + (a + byte.toNat) % 65521) % 65521)) (1, 0)
  65536 * b + a

-- The library where it finds nothing to compress: a stream of one stored block.
@[reducible]
def storing : Zlib where
  compress bytes := .ok <| [0x78, 0x01, 0x01] ++ LittleEndian.encode 2 bytes.length ++
    LittleEndian.encode 2 (65535 - bytes.length) ++ bytes ++ (LittleEndian.encode 4 (adler32 bytes)).reverse
  decompress bytes := .ok ((bytes.drop 7).take (bytes.length - 11))

theorem storing_lossless : @Lossless storing := by
  intro bytes
  refine ⟨_, rfl, congrArg Except.ok ?_⟩
  have h₇ : ([0x78, 0x01, 0x01] ++ LittleEndian.encode 2 bytes.length ++
      LittleEndian.encode 2 (65535 - bytes.length)).length = 7 := by simp
  rw [List.append_assoc _ bytes, ← h₇, List.drop_left, List.length_append, h₇, List.length_append,
    List.length_reverse, LittleEndian.encode_length, show 7 + (bytes.length + 4) - 11 = bytes.length by omega,
    List.take_left]

theorem paired_new (max : UInt64) : Paired (new max) (new max) :=
  ⟨rfl, rfl, rfl, rfl, rfl, rfl⟩

-- Two small packets, and room for both of them.
theorem small_packets_arrive :
    ∃ s', @writePackets storing [[1, 2, 3], [4]] ((new 16).withCompression true) = .ok () s' ∧
      @Arrives storing ((new 16).withCompression true) [[1, 2, 3], [4]] [s'.sendQueue.flatten] ∧
      @Arrives storing ((new 16).withCompression true) [[1, 2, 3], [4]] s'.sendQueue := by
  let := storing
  have fits : ∀ p ∈ ([[1, 2, 3], [4]] : List Bytes), p.length ≤ (new 16).maxAllowedPacket.toNat := by decide
  have ⟨_, s', hw, hone, heach⟩ := transparent_iff storing_lossless (paired_new 16) fits (by decide)
  exact ⟨s', hw, hone.mpr (by decide), heach.mpr (by decide)⟩

-- A packet of exactly the size that is allowed.
theorem largest_packet_rejected :
    let payload := List.replicate 16777216 0
    ∃ s', @writePackets storing [payload] ((new 16777216).withCompression true) = .ok () s' ∧
      ¬@Arrives storing ((new 16777216).withCompression true) [payload] [s'.sendQueue.flatten] ∧
      ¬@Arrives storing ((new 16777216).withCompression true) [payload] s'.sendQueue := by
  intro payload
  let := storing
  have hl : payload.length = 16777216 := List.length_replicate
  have hf : frameLen payload = 16777224 := by
    rw [frameLen, hl]
    decide
  have fits : ∀ p ∈ [payload], p.length ≤ (new 16777216).maxAllowedPacket.toNat := by
    intro p hp
    rw [List.mem_singleton.mp hp, hl]
    decide
  have he : ∀ p ∈ [payload], ¬(MysqlPacket.new p).isErrorPacket := by
    intro p hp
    rw [List.mem_singleton.mp hp, MysqlPacket.isErrorPacket, MysqlPacket.new_data, List.head?_replicate]
    decide
  have hmax : ¬16777224 ≤ (new 16777216).maxAllowedPacket.toNat := by decide
  obtain ⟨s', hw, hone, heach⟩ := arrives_compressed_iff storing_lossless (paired_new 16777216) fits he
  refine ⟨s', hw, fun h => hmax ?_, fun h => hmax ?_⟩
  · have := hone.mp h
    rwa [framedLen, List.map_singleton, List.sum_singleton, hf] at this
  · exact hf ▸ (heach.mp h payload (List.mem_singleton.mpr rfl)).left

end Examples
end MySQL.PacketStream
