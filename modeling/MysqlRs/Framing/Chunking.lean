import Mathlib.Data.UInt
import MysqlRs.Framing.Expecting

namespace MySQL.PacketStream

-- Where the parser has got to after reading a part of the payloads `ps`: it expects `qs` now.
structure Progress (s s' : PacketStream) (ps qs : List Bytes) (buffer more : Bytes) : Prop where
  keeps : s' = { s with recvQueue := s'.recvQueue, nextSeqId := s'.nextSeqId }
  bytes : buffer ++ more = framed s'.nextSeqId qs
  fits  : ∀ q ∈ qs, q.length ≤ s.maxAllowedPacket.toNat
  front : Front buffer qs
  count : s.recvQueue.length + ps.length ≤ s'.recvQueue.length + qs.length

-- However the bytes are cut, parsing them fails or queues at least as many packets as payloads have
-- been used up, and it queues more than that when the cut is not clean.
theorem parsePlainPackets_progress {s : PacketStream} {ps : List Bytes} {buffer more : Bytes} (n : Nat)
    (h : buffer ++ more = framed s.nextSeqId ps)
    (fits : ∀ p ∈ ps, p.length ≤ s.maxAllowedPacket.toNat) :
    (∃ e s', parsePlainPackets buffer n s = .error e s') ∨
    ∃ m b s' qs, parsePlainPackets buffer n s = .ok (m, b) s' ∧ Progress s s' ps qs b more ∧
      (CleanCut ps buffer.length ∨
        s.recvQueue.length + ps.length < s'.recvQueue.length + qs.length) := by
  induction ps generalizing buffer n s
  case nil =>
    obtain ⟨hb, hm⟩ := List.append_eq_nil_iff.mp h
    exact .inr ⟨n, [], s, [], by rw [hb, parsePlainPackets_stuck n (.nil _)],
      ⟨rfl, hm, fits, rfl, Nat.le_refl _⟩, .inl trivial⟩
  case cons p ps ih =>
    have hm := fits p List.mem_cons_self
    have fits' : ∀ q ∈ ps, q.length ≤ s.maxAllowedPacket.toNat :=
      fun q hq => fits q (List.mem_cons_of_mem _ hq)
    rw [framed] at h
    rw [CleanCut]
    by_cases hp : frameLen p ≤ buffer.length
    case pos =>
      obtain ⟨b, hb, h'⟩ := split_append_of_le (plainPackets_length .. ▸ hp) h.symm
      have hl : b.length = buffer.length - frameLen p := by
        rw [hb, List.length_append, plainPackets_length, Nat.add_sub_cancel_left]
      rw [if_pos hp, ← hl, hb, parsePlainPackets_payload n p b hm]
      by_cases he : (MysqlPacket.new p).isErrorPacket
      case pos => exact .inl ⟨_, _, if_pos he⟩
      case neg =>
        simp only [he]
        have := ih (n := n + 1) (s := {
          s with
          nextSeqId := (plainPackets s.nextSeqId p).2
          recvQueue := s.recvQueue ++ [MysqlPacket.new p]
        }) h'.symm fits'
        refine this.imp_right ?_
        rintro ⟨m, b', s', qs, hr, hs, hc⟩
        refine ⟨m, b', s', qs, hr, ?_, ?_⟩
        · have hn := hs.count
          simp only [List.length_append, List.length_cons, List.length_nil] at hn
          exact ⟨hs.keeps, hs.bytes, hs.fits, hs.front, by rw [List.length_cons]; omega⟩
        · simp only [List.length_append, List.length_cons, List.length_nil] at hc ⊢
          exact hc.imp_right fun _ => by omega
    case neg =>
      rw [if_neg hp]
      by_cases hf : buffer.length < firstFragmentLen p
      case pos =>
        have hs := parsePlainPackets_stuck n (stuck_of_front (s := s) h fits hf)
        exact .inr ⟨n, buffer, s, p :: ps, hs, ⟨rfl, h, fits, hf, Nat.le_refl _⟩,
          .inl (by rw [firstFragmentLen] at hf; omega)⟩
      case neg =>
        have hf := Nat.le_of_not_lt hf
        have hp := Nat.lt_of_not_le hp
        obtain ⟨rest, h₁, h₂⟩ := split_append_of_le (by rw [plainPackets_length]; omega) h
        obtain ⟨q, r, b, seq, hq, hne, h₃, h₄, h₅, hr⟩ := parsePlainPackets_cut n p hm h₁.symm hp hf
        by_cases he : (MysqlPacket.new q).isErrorPacket
        case pos => exact .inl ⟨_, _, hr.trans (if_pos he)⟩
        case neg =>
          refine .inr ⟨n + 1, b, _, r :: ps, hr.trans (if_neg he), ⟨rfl, ?_, ?_, h₅, ?_⟩, .inr ?_⟩
          · rw [h₂, ← List.append_assoc, h₃, framed, h₄]
          · rw [hq, List.length_append] at hm
            exact List.forall_mem_cons.mpr ⟨by omega, fits'⟩
          · simp
          · simp

theorem Idle.expecting {s : PacketStream} {ps : List Bytes} (h : Idle s) (fits : ∀ p ∈ ps, p.length ≤ s.maxAllowedPacket.toNat) :
    Expecting s ps (framed s.nextSeqId ps) where
  plain    := h.plain
  inflated := h.inflated
  bytes    := by rw [h.buffer, List.nil_append]
  fits     := fits
  front    := by
    rw [h.buffer]
    cases ps
    case nil  => rfl
    case cons => rw [Front, firstFragmentLen, List.length_nil]; omega

section

variable [Zlib]

-- Hands the pieces of a byte stream to the packet stream, one after another.
def feedAll : List Bytes → Proc Error PacketStream Unit
  | []      => pure ()
  | d :: ds => do
    let _ ← feedBytes d
    feedAll ds

theorem feedAll_append (ds es : List Bytes) (s : PacketStream) :
    feedAll (ds ++ es) s = (feedAll ds s).bind fun _ => feedAll es := by
  induction ds generalizing s
  case nil          => rfl
  case cons d ds ih =>
    simp only [List.cons_append, feedAll, Proc.bind_apply, Outcome.bind_assoc]
    congr 1
    funext _ s
    exact ih s

variable {s : PacketStream} {ps : List Bytes} {pieces : List Bytes} {more : Bytes}

-- The run of `Expecting.feed` over all pieces.
theorem feedAll_clean (h : Expecting s ps (pieces.flatten ++ more))
    (hc : ∀ k, CleanCut ps (s.recvBuffer.length + (pieces.take k).flatten.length))
    (he : ∀ p ∈ ps, ¬(MysqlPacket.new p).isErrorPacket) :
    ∃ b seq k, k = arrived ps (s.recvBuffer.length + pieces.flatten.length) ∧
      s.recvBuffer.length + pieces.flatten.length = framedLen (ps.take k) + b.length ∧
      let s' := { s with
        recvBuffer := b, nextSeqId := seq, recvQueue := s.recvQueue ++ (ps.take k).map .new }
      feedAll pieces s = .ok () s' ∧ Expecting s' (ps.drop k) more := by
  induction pieces generalizing s ps
  case nil =>
    refine ⟨s.recvBuffer, s.nextSeqId, 0, ?_, ?_, ?_, by simpa using h⟩
    · simp [arrived_front h.front]
    · simp [framedLen]
    · simp [feedAll]
  case cons d ds ih =>
    rw [List.flatten_cons, List.append_assoc] at h
    have hc₁ := hc 1
    simp only [List.take_succ_cons, List.take_zero, List.flatten_cons, List.flatten_nil,
      List.append_nil] at hc₁
    obtain ⟨b, seq, hl, hf, hx⟩ := h.feed hc₁ fun p hp => he p (List.mem_of_mem_take hp)
    generalize hk : arrived ps (s.recvBuffer.length + d.length) = k at hl hf hx
    have hk : k ≤ ps.length := hk ▸ arrived_le ..
    obtain ⟨b', seq', k', hk', hl', hf', hx'⟩ := ih hx
      (fun j => by
        have := hc (j + 1)
        simp only [List.take_succ_cons, List.flatten_cons, List.length_append] at this
        rwa [← Nat.add_assoc, hl, Nat.add_assoc, cleanCut_drop] at this)
      (fun p hp => he p (List.mem_of_mem_drop hp))
    refine ⟨b', seq', k + k', ?_, ?_, ?_, ?_⟩
    · rw [hk', List.flatten_cons, List.length_append, ← Nat.add_assoc, hl, Nat.add_assoc,
        arrived_drop hk]
    · rw [List.take_add]
      simp only [framedLen, List.map_append, List.sum_append, List.flatten_cons, List.length_append]
        at hl hl' ⊢
      omega
    · rw [List.take_add]
      simp only [feedAll, Proc.bind_apply, hf, Outcome.bind_ok, hf']
      simp
    · rw [List.take_add, ← List.drop_drop]
      simpa using hx'

theorem Expecting.feed_progress {data : Bytes} (h : Expecting s ps (data ++ more)) :
    (∃ e s', feedBytes data s = .error e s') ∨
    ∃ m s' qs, feedBytes data s = .ok m s' ∧ Expecting s' qs more ∧
      s.recvQueue.length + ps.length ≤ s'.recvQueue.length + qs.length ∧
      (CleanCut ps (s.recvBuffer.length + data.length) ∨
        s.recvQueue.length + ps.length < s'.recvQueue.length + qs.length) := by
  have hb := h.bytes
  rw [← List.append_assoc] at hb
  rw [feedBytes_plain h.plain h.inflated, ← List.length_append]
  have := parsePlainPackets_progress (s := { s with recvBuffer := [] }) 0 hb h.fits
  rcases this with ⟨e, s', hf⟩ | ⟨m, b, s', qs, hf, hp, hc⟩
  · exact .inl ⟨e, s', by rw [hf, Outcome.bind_error]⟩
  · refine .inr ⟨m, { s' with recvBuffer := b }, qs, by rw [hf]; rfl, ?_, hp.count, hc⟩
    have hs := hp.keeps
    exact ⟨by rw [hs]; exact h.plain, by rw [hs]; exact h.inflated, hp.bytes,
      by rw [hs]; exact hp.fits, hp.front⟩

theorem feedAll_count (h : Expecting s ps (pieces.flatten ++ more)) {s' : PacketStream}
    (hf : feedAll pieces s = .ok () s') :
    ∃ qs, Expecting s' qs more ∧
      s.recvQueue.length + ps.length ≤ s'.recvQueue.length + qs.length := by
  induction pieces generalizing s ps
  case nil =>
    cases hf
    exact ⟨ps, h, Nat.le_refl _⟩
  case cons d ds ih =>
    rw [List.flatten_cons, List.append_assoc] at h
    have ⟨m, s₁, hd, hf⟩ := Outcome.bind_eq_ok.mp hf
    rcases h.feed_progress with ⟨e, s₂, he⟩ | ⟨_, s₂, qs, he, hx, hc, _⟩
    · exact nomatch hd.symm.trans he
    · obtain ⟨_, rfl⟩ := Outcome.ok.inj (hd.symm.trans he)
      have ⟨rs, hx', hc'⟩ := ih hx hf
      exact ⟨rs, hx', by omega⟩

-- A piece that ends inside a split payload leaves one packet too many.
theorem feedAll_unclean (h : Expecting s ps (pieces.flatten ++ more))
    (he : ∀ p ∈ ps, ¬(MysqlPacket.new p).isErrorPacket) {s' : PacketStream}
    (hf : feedAll pieces s = .ok () s')
    (hc : ¬∀ k, CleanCut ps (s.recvBuffer.length + (pieces.take k).flatten.length)) :
    ∃ qs, Expecting s' qs more ∧
      s.recvQueue.length + ps.length < s'.recvQueue.length + qs.length := by
  induction pieces generalizing s ps
  case nil => exact absurd (fun k => by simpa using h.front.cleanCut) hc
  case cons d ds ih =>
    rw [List.flatten_cons, List.append_assoc] at h
    have ⟨m, s₁, hd, hf⟩ := Outcome.bind_eq_ok.mp hf
    by_cases hc₁ : CleanCut ps (s.recvBuffer.length + d.length)
    case neg =>
      rcases h.feed_progress with ⟨e, s₂, he⟩ | ⟨_, s₂, qs, he, hx, _, hc'⟩
      · exact nomatch hd.symm.trans he
      · obtain ⟨_, rfl⟩ := Outcome.ok.inj (hd.symm.trans he)
        have ⟨rs, hx', hn⟩ := feedAll_count hx hf
        exact ⟨rs, hx', by have := hc'.resolve_left hc₁; omega⟩
    case pos =>
      have ⟨b, seq, hl, hd', hx⟩ := h.feed hc₁ fun p hp => he p (List.mem_of_mem_take hp)
      generalize hk : arrived ps (s.recvBuffer.length + d.length) = k at hl hd' hx
      have hk : k ≤ ps.length := hk ▸ arrived_le ..
      obtain ⟨_, rfl⟩ := Outcome.ok.inj (hd.symm.trans hd')
      have ⟨qs, hx', hn⟩ := ih hx (fun p hp => he p (List.mem_of_mem_drop hp)) hf
        fun hall => hc fun j => by
          cases j
          case zero   => simpa using h.front.cleanCut
          case succ j =>
            simp only [List.take_succ_cons, List.flatten_cons, List.length_append]
            rw [← Nat.add_assoc, hl, Nat.add_assoc, cleanCut_drop]
            exact hall j
      refine ⟨qs, hx', ?_⟩
      simp only [List.length_append, List.length_map, List.length_take, List.length_drop] at hn
      omega

-- What receiving the payloads `ps` in these pieces should come to: in the end they are all queued,
-- unchanged and in order, and after each piece those are that have arrived completely.
def Received (s : PacketStream) (ps pieces : List Bytes) : Prop :=
  (∃ s', feedAll pieces s = .ok () s' ∧ s'.recvQueue = ps.map .new ∧
    s'.recvBuffer = [] ∧ s'.decompressedBuffer = []) ∧
  ∀ k, ∃ s', feedAll (pieces.take k) s = .ok () s' ∧
    s'.recvQueue = (ps.take (arrived ps (pieces.take k).flatten.length)).map .new

theorem Received.of_clean (hs : Idle s) (fits : ∀ p ∈ ps, p.length ≤ s.maxAllowedPacket.toNat)
    (he : ∀ p ∈ ps, ¬(MysqlPacket.new p).isErrorPacket) (hp : pieces.flatten = framed s.nextSeqId ps)
    (hc : ∀ k, CleanCut ps (pieces.take k).flatten.length) : Received s ps pieces := by
  have h := hs.expecting fits
  have hb : s.recvBuffer.length = 0 := by rw [hs.buffer, List.length_nil]
  constructor
  · rw [← hp, ← List.append_nil pieces.flatten] at h
    obtain ⟨b, seq, k, hk, _, hf, hx⟩ := feedAll_clean h (by simpa [hb] using hc) he
    rw [hb, Nat.zero_add, hp, framed_length, arrived_framedLen] at hk
    have hn := hx.bytes
    rw [hk, List.drop_length, framed, List.append_nil] at hn
    exact ⟨_, hf, by simp [hs.queue, hk], hn, hs.inflated⟩
  · intro k
    rw [← hp, ← List.take_append_drop k pieces, List.flatten_append] at h
    obtain ⟨b, seq, j, hj, _, hf, _⟩ := feedAll_clean h
      (fun i => by simpa [hb, List.take_take] using hc (min i k)) he
    rw [hb, Nat.zero_add] at hj
    exact ⟨_, hf, by simp [hs.queue, hj]⟩

-- What is left when as many packets have been queued as were sent.
omit [Zlib] in
theorem Expecting.done (h : Expecting s ps []) : ps = [] := by
  cases ps
  case nil       => rfl
  case cons p ps =>
    have hl := congrArg List.length h.bytes
    have hf := h.front
    have := firstFragmentLen_le p
    rw [Front] at hf
    simp only [List.append_nil, framed_length, framedLen, List.map_cons, List.sum_cons] at hl
    omega

-- Where all payloads and nothing else have been queued, no piece has ended inside of a split payload.
theorem clean_of_feedAll (hs : Idle s) (fits : ∀ p ∈ ps, p.length ≤ s.maxAllowedPacket.toNat)
    (he : ∀ p ∈ ps, ¬(MysqlPacket.new p).isErrorPacket) (hp : pieces.flatten = framed s.nextSeqId ps)
    {s' : PacketStream} (hf : feedAll pieces s = .ok () s') (hq : s'.recvQueue = ps.map .new) (k : Nat) :
    CleanCut ps (pieces.take k).flatten.length := by
  by_contra hc
  have hx := hs.expecting fits
  rw [← hp, ← List.append_nil pieces.flatten] at hx
  have ⟨qs, hx', hn⟩ := feedAll_unclean hx he hf fun hall => hc (by simpa [hs.buffer] using hall k)
  simp [hs.queue, hq, hx'.done] at hn

theorem Received.clean (hs : Idle s) (fits : ∀ p ∈ ps, p.length ≤ s.maxAllowedPacket.toNat)
    (he : ∀ p ∈ ps, ¬(MysqlPacket.new p).isErrorPacket) (hp : pieces.flatten = framed s.nextSeqId ps)
    (h : Received s ps pieces) (k : Nat) : CleanCut ps (pieces.take k).flatten.length := by
  have ⟨⟨_, hf, hq, _⟩, _⟩ := h
  exact clean_of_feedAll hs fits he hp hf hq k

-- Chunking is harmless exactly when no piece ends after the first full fragment of a split payload
-- and before the end of that payload.
theorem received_iff_cleanCut (hs : Idle s) (fits : ∀ p ∈ ps, p.length ≤ s.maxAllowedPacket.toNat)
    (he : ∀ p ∈ ps, ¬(MysqlPacket.new p).isErrorPacket)
    (hp : pieces.flatten = framed s.nextSeqId ps) :
    Received s ps pieces ↔ ∀ k, CleanCut ps (pieces.take k).flatten.length :=
  ⟨fun h => h.clean hs fits he hp, .of_clean hs fits he hp⟩

end

section Examples

open Libraries

theorem idle_new (max : UInt64) : Idle (new max) :=
  ⟨rfl, rfl, rfl, rfl⟩

-- Two packets in three pieces, cut inside a header and inside a payload.
theorem received_in_pieces :
    @Received utf8Only.toZlib (new 16) [[1], [2, 3]] [[1, 0], [0, 0, 1, 2, 0, 0, 1, 2], [3]] := by
  let := utf8Only.toZlib
  refine (received_iff_cleanCut (idle_new 16) (by decide) (by decide) ?_).mpr fun _ =>
    cleanCut_of_short (by decide) _
  rw [framed, plainPackets_short (by decide), framed, plainPackets_short (by decide), framed]
  decide

-- A payload of exactly `maxPacketLen` bytes whose closing empty fragment comes in a piece of its own.
theorem split_payload_not_received :
    let payload := List.replicate maxPacketLen 0
    ¬@Received utf8Only.toZlib (new (2 ^ 24)) [payload] [fragment 0 payload, fragment 1 []] := by
  intro payload h
  let := utf8Only.toZlib
  have hl : payload.length = maxPacketLen := List.length_replicate
  have hp : [fragment 0 payload, fragment 1 []].flatten = framed 0 [payload] := by
    rw [framed, framed, plainPackets_long (by omega), List.take_of_length_le (by omega),
      List.drop_of_length_le (by omega), plainPackets_short (by decide)]
    simp
  have he : ∀ p ∈ [payload], ¬(MysqlPacket.new p).isErrorPacket := by
    intro p hp
    rw [List.mem_singleton.mp hp, MysqlPacket.isErrorPacket, MysqlPacket.new_data,
      List.head?_replicate]
    decide
  have hc := h.clean (idle_new _) (by simp [hl, new]; decide) he hp 1
  simp [CleanCut, frameLen, hl, maxPacketLen] at hc

end Examples

end MySQL.PacketStream
