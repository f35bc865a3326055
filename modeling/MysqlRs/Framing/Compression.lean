import MysqlRs.Framing.Chunking
import MysqlRs.Framing.Violations
import MysqlRs.Library.Chunks

namespace MySQL.PacketStream

-- The payloads framed one by one.
def framedList (seq : UInt8) : List Bytes → List Bytes
  | []      => []
  | p :: ps => (plainPackets seq p).1 :: framedList (plainPackets seq p).2 ps

theorem framedList_flatten (seq : UInt8) (ps : List Bytes) : (framedList seq ps).flatten = framed seq ps := by
  induction ps generalizing seq
  case nil       => rfl
  case cons _ ih => rw [framedList, List.flatten_cons, ih, framed]

theorem framedList_take (seq : UInt8) (ps : List Bytes) (k : Nat) :
    (framedList seq ps).take k = framedList seq (ps.take k) := by
  induction ps generalizing seq k
  case nil       => simp [framedList]
  case cons _ ih => cases k <;> simp [framedList, ih]

variable [Zlib]

section Writing

def writePackets : List Bytes → Proc Error PacketStream Unit
  | []            => pure ()
  | p :: packets => do
    writePacket p
    writePackets packets

theorem writePackets_append (ps qs : List Bytes) (s : PacketStream) :
    writePackets (ps ++ qs) s = (writePackets ps s).bind fun _ => writePackets qs := by
  induction ps generalizing s
  case nil          => rfl
  case cons p ps ih =>
    simp only [List.cons_append, writePackets, Proc.bind_apply, Outcome.bind_assoc]
    congr 1
    funext _ s
    exact ih s

theorem writePacket_plain (p : Bytes) {s : PacketStream} (h : s.compressed = false) :
    writePacket p s = .ok () {
      s with
      sendQueue := s.sendQueue ++ [(plainPackets s.nextSeqId p).1]
      nextSeqId := (plainPackets s.nextSeqId p).2
    } := by
  simp [writePacket, h, buildPlainPackets]

-- Without compression, the packets are framed.
theorem writePackets_plain (ps : List Bytes) {s : PacketStream} (h : s.compressed = false) :
    writePackets ps s = .ok () {
      s with
      sendQueue := s.sendQueue ++ framedList s.nextSeqId ps
      nextSeqId := seqAfter s.nextSeqId ps
    } := by
  induction ps generalizing s
  case nil          => simp [writePackets, framedList, seqAfter]
  case cons p ps ih =>
    rw [writePackets, Proc.bind_apply, writePacket_plain p h, Outcome.bind_ok, ih]
    · simp [seqAfter, framedList]
    · exact h

end Writing

-- What is promised of the compression library.
def Lossless : Prop :=
  ∀ bytes, ∃ compressed, Zlib.compress bytes = .ok compressed ∧ Zlib.decompress compressed = .ok bytes

-- A compressed packet, as it is sent for a chunk that compresses to `compressed`.
def compressedFrame (seq : UInt8) (chunk compressed : Bytes) : Bytes :=
  if chunk.length ≤ compressed.length then
    writeInt3 chunk.length ++ [seq] ++ writeInt3 0 ++ chunk
  else
    writeInt3 compressed.length ++ [seq] ++ writeInt3 chunk.length ++ compressed

-- The compressed packets of consecutive chunks, and the sequence number that comes after them.
inductive Compressed : UInt8 → List Bytes → List Bytes → UInt8 → Prop
  | nil (seq : UInt8) : Compressed seq [] [] seq
  | cons {seq next : UInt8} {chunk compressed : Bytes} {cs fs : List Bytes} :
    chunk.length ≤ maxPacketLen → Zlib.compress chunk = .ok compressed →
    Zlib.decompress compressed = .ok chunk → Compressed (seq + 1) cs fs next →
    Compressed seq (chunk :: cs) (compressedFrame seq chunk compressed :: fs) next

theorem Compressed.append {seq mid next : UInt8} {cs cs' fs fs' : List Bytes}
    (h : Compressed seq cs fs mid) (h' : Compressed mid cs' fs' next) :
    Compressed seq (cs ++ cs') (fs ++ fs') next := by
  induction h
  case nil                 => exact h'
  case cons hl hc hd _ ih => exact .cons hl hc hd (ih h')

-- The chunks that the framed payloads are cut into before they are compressed.
def plainChunks (seq : UInt8) : List Bytes → List Bytes
  | []      => []
  | p :: ps => chunks maxPacketLen (plainPackets seq p).1 ++ plainChunks (plainPackets seq p).2 ps

omit [Zlib] in
theorem plainChunks_flatten (seq : UInt8) (ps : List Bytes) : (plainChunks seq ps).flatten = framed seq ps := by
  induction ps generalizing seq
  case nil       => rfl
  case cons _ ih =>
    rw [plainChunks, List.flatten_append, chunks_flatten (by decide), ih, framed]

section Compressing

theorem compressedPacket_ok {chunk : Bytes} (h : Lossless) (hl : chunk.length ≤ maxPacketLen)
    (s : PacketStream) :
    ∃ fs next, Compressed s.nextCompressedSeqId [chunk] fs next ∧
      compressedPacket chunk s =
        .ok () { s with sendQueue := s.sendQueue ++ fs, nextCompressedSeqId := next } := by
  have ⟨compressed, hc, hd⟩ := h chunk
  refine ⟨_, _, .cons hl hc hd (.nil _), ?_⟩
  rw [compressedPacket, hc]
  by_cases hle : chunk.length ≤ compressed.length
  case pos =>
    simp [hle, Except.mapError, Nat.not_lt.mpr hl, compressedFrame]
  case neg =>
    have : ¬maxPacketLen < compressed.length := by omega
    simp [hle, Except.mapError, this, compressedFrame]

theorem compressedPackets_ok (h : Lossless) (plain : Bytes) (s : PacketStream) :
    ∃ fs next, Compressed s.nextCompressedSeqId (chunks maxPacketLen plain) fs next ∧
      compressedPackets plain s =
        .ok () { s with sendQueue := s.sendQueue ++ fs, nextCompressedSeqId := next } := by
  fun_induction compressedPackets plain generalizing s
  case case1 =>
    exact ⟨[], s.nextCompressedSeqId, by rw [chunks_nil]; exact .nil _, by simp⟩
  case case2 plain hne ih =>
    have hl : (plain.take maxPacketLen).length ≤ maxPacketLen := List.length_take_le ..
    obtain ⟨fs, mid, hf, hs⟩ := compressedPacket_ok h hl s
    obtain ⟨fs', next, hf', hs'⟩ :=
      ih { s with sendQueue := s.sendQueue ++ fs, nextCompressedSeqId := mid }
    refine ⟨fs ++ fs', next, ?_, ?_⟩
    · rw [chunks_of_ne_nil (by decide) hne]
      exact hf.append hf'
    · rw [Proc.bind_apply, hs, Outcome.bind_ok, hs', List.append_assoc]

theorem writePacket_compressed (p : Bytes) {s : PacketStream} (h : s.compressed) :
    writePacket p s =
      compressedPackets (plainPackets s.nextSeqId p).1 { s with nextSeqId := (plainPackets s.nextSeqId p).2 } := by
  rw [writePacket, Proc.bind_apply, Proc.get_apply, Outcome.bind_ok, if_pos h]
  rfl

-- The compression library takes what a packet is cut into.
def Writable (payload : Bytes) (s : PacketStream) : Prop :=
  s.compressed = true → ∀ chunk ∈ chunks maxPacketLen (plainPackets s.nextSeqId payload).1,
    ∃ compressed, Zlib.compress chunk = .ok compressed

theorem compressedPacket_iff {chunk : Bytes} (hl : chunk.length ≤ maxPacketLen) (s : PacketStream) :
    (∃ s', compressedPacket chunk s = .ok () s') ↔ ∃ compressed, Zlib.compress chunk = .ok compressed := by
  rw [compressedPacket]
  cases hc : Zlib.compress chunk
  case error e => simp [Except.mapError]
  case ok compressed =>
    refine iff_of_true ?_ ⟨compressed, rfl⟩
    by_cases hle : chunk.length ≤ compressed.length
    case pos => simp [hle, Except.mapError, Nat.not_lt.mpr hl]
    case neg =>
      have : ¬maxPacketLen < compressed.length := by omega
      simp [hle, Except.mapError, this]

theorem compressedPackets_iff (plain : Bytes) (s : PacketStream) :
    (∃ s', compressedPackets plain s = .ok () s') ↔
      ∀ chunk ∈ chunks maxPacketLen plain, ∃ compressed, Zlib.compress chunk = .ok compressed := by
  fun_induction compressedPackets plain generalizing s
  case case1 =>
    rw [chunks_nil]
    exact iff_of_true ⟨s, rfl⟩ (List.forall_mem_nil _)
  case case2 plain hne ih =>
    have hl : (plain.take maxPacketLen).length ≤ maxPacketLen := List.length_take_le ..
    rw [chunks_of_ne_nil (by decide) hne, List.forall_mem_cons, ← compressedPacket_iff hl s]
    constructor
    · rintro ⟨s', h⟩
      obtain ⟨_, s₁, h₁, h₂⟩ := Outcome.bind_eq_ok.mp h
      exact ⟨⟨s₁, h₁⟩, (ih s₁).mp ⟨s', h₂⟩⟩
    · rintro ⟨⟨s₁, h₁⟩, h⟩
      obtain ⟨s', h₂⟩ := (ih s₁).mpr h
      exact ⟨s', Outcome.bind_eq_ok.mpr ⟨(), s₁, h₁, h₂⟩⟩

theorem writePacket_iff (p : Bytes) (s : PacketStream) : (∃ s', writePacket p s = .ok () s') ↔ Writable p s := by
  rw [Writable]
  cases hc : s.compressed
  case false => exact iff_of_true ⟨_, writePacket_plain p hc⟩ nofun
  case true  =>
    rw [writePacket_compressed p hc, compressedPackets_iff]
    exact ⟨fun h _ => h, fun h => h rfl⟩

-- With compression, the chunks of the framed packets are compressed.
theorem writePackets_compressed (h : Lossless) (ps : List Bytes) {s : PacketStream} (hc : s.compressed) :
    ∃ fs next, Compressed s.nextCompressedSeqId (plainChunks s.nextSeqId ps) fs next ∧
      writePackets ps s = .ok () {
        s with
        sendQueue := s.sendQueue ++ fs
        nextSeqId := seqAfter s.nextSeqId ps
        nextCompressedSeqId := next
      } := by
  induction ps generalizing s
  case nil          => exact ⟨[], _, .nil _, by simp [writePackets, seqAfter]⟩
  case cons p ps ih =>
    obtain ⟨fs, mid, hf, hs⟩ := compressedPackets_ok h (plainPackets s.nextSeqId p).1
      { s with nextSeqId := (plainPackets s.nextSeqId p).2 }
    obtain ⟨fs', next, hf', hs'⟩ := ih (s := {
      s with
      sendQueue := s.sendQueue ++ fs
      nextSeqId := (plainPackets s.nextSeqId p).2
      nextCompressedSeqId := mid
    }) hc
    refine ⟨fs ++ fs', next, hf.append hf', ?_⟩
    rw [writePackets, Proc.bind_apply, writePacket_compressed p hc, hs, Outcome.bind_ok, hs', List.append_assoc,
      seqAfter]

end Compressing

section Inflating

variable {s : PacketStream}

-- What the header of a compressed packet says.
omit [Zlib] in
theorem header_front {field : Nat} {seq : UInt8} {body rest : Bytes} (hl : body.length ≤ maxPacketLen)
    (hf : field ≤ maxPacketLen)
    (h : s.recvBuffer = writeInt3 body.length ++ [seq] ++ writeInt3 field ++ body ++ rest) :
    s.recvBuffer.length = compressedHeaderLen + body.length + rest.length ∧
    readInt3 s.recvBuffer = body.length ∧ s.recvBuffer.getD 3 0 = seq ∧ uncompressedLen s = field ∧
    s.recvBuffer.drop compressedHeaderLen = body ++ rest := by
  have h₃ (n : Nat) : (writeInt3 n).length = 3 := LittleEndian.encode_length ..
  have h₄ : (writeInt3 body.length ++ [seq]).length = 4 := by simp [h₃]
  have h₇ : (writeInt3 body.length ++ [seq] ++ writeInt3 field).length = 7 := by simp [h₃]
  refine ⟨?_, ?_, ?_, ?_, ?_⟩
  · rw [h, List.length_append, List.length_append, h₇, compressedHeaderLen]
  · rw [h]
    simp only [List.append_assoc]
    exact readInt3_writeInt3 hl _
  · have : s.recvBuffer = writeInt3 body.length ++ (seq :: (writeInt3 field ++ body ++ rest)) := by simp [h]
    simp [this, List.getD_eq_getElem?_getD, writeInt3]
  · rw [uncompressedLen, h, List.append_assoc, List.append_assoc, ← h₄, List.drop_left]
    exact readInt3_writeInt3 hf _
  · rw [h, List.append_assoc, compressedHeaderLen, ← h₇, List.drop_left]

-- A compressed packet at the front of the buffer is read as the chunk it was made of.
theorem compressedFrame_front {chunk compressed rest : Bytes} (hl : chunk.length ≤ maxPacketLen)
    (hd : Zlib.decompress compressed = .ok chunk)
    (h : s.recvBuffer = compressedFrame s.nextCompressedSeqId chunk compressed ++ rest) :
    Due s ∧ Inflates s chunk ∧
      s.recvBuffer.drop (compressedHeaderLen + readInt3 s.recvBuffer) = rest := by
  have front {body : Bytes} {field : Nat} (hb : body.length ≤ maxPacketLen) (hf : field ≤ maxPacketLen)
      (h : s.recvBuffer =
        writeInt3 body.length ++ [s.nextCompressedSeqId] ++ writeInt3 field ++ body ++ rest) :
      Due s ∧ compressedPayload s = body ∧ uncompressedLen s = field ∧
        s.recvBuffer.drop (compressedHeaderLen + readInt3 s.recvBuffer) = rest := by
    obtain ⟨hlen, hr, hs, hu, hdrop⟩ := header_front hb hf h
    refine ⟨⟨by omega, by omega, hs⟩, ?_, hu, ?_⟩
    · rw [compressedPayload, hr, List.drop_take, hdrop, Nat.add_sub_cancel_left, List.take_left]
    · rw [hr, ← List.drop_drop, hdrop, List.drop_left]
  rw [compressedFrame] at h
  split_ifs at h with hle
  case pos =>
    obtain ⟨hdue, hp, hu, hrest⟩ := front hl (Nat.zero_le _) h
    exact ⟨hdue, hp ▸ .stored hu, hrest⟩
  case neg =>
    have hlt := Nat.lt_of_not_le hle
    obtain ⟨hdue, hp, hu, hrest⟩ := front (by omega) hl h
    exact ⟨hdue, .deflated (by omega) (hp ▸ hd) hu.symm, hrest⟩

-- All of the compressed packets are read if what they contain fits together with what was there before.
theorem feedCompressedPackets_ok {cs fs : List Bytes} {next : UInt8}
    (h : Compressed s.nextCompressedSeqId cs fs next) (hr : s.recvBuffer = fs.flatten)
    (hm : s.decompressedBuffer.length + cs.flatten.length ≤ s.maxAllowedPacket.toNat) :
    feedCompressedPackets s = .ok () {
      s with
      recvBuffer := []
      decompressedBuffer := s.decompressedBuffer ++ cs.flatten
      nextCompressedSeqId := next
    } := by
  generalize hseq : s.nextCompressedSeqId = seq at h
  induction h generalizing s
  case nil =>
    rw [feedCompressedPackets, if_pos (by rw [hr]; decide), List.flatten_nil, List.append_nil, ← hseq]
    rw [List.flatten_nil] at hr
    rw [← hr]
  case cons hl _ hd _ ih =>
    rw [List.flatten_cons] at hr hm
    subst hseq
    obtain ⟨hdue, hi, hrest⟩ := compressedFrame_front hl hd hr
    rw [List.length_append, ← Nat.add_assoc, ← List.length_append] at hm
    rw [feedCompressedPackets_due hdue hi, if_neg (by omega), hrest, ih rfl hm rfl]
    simp

theorem feedCompressedPackets_tooLarge {cs fs : List Bytes} {next : UInt8}
    (h : Compressed s.nextCompressedSeqId cs fs next) (hr : s.recvBuffer = fs.flatten)
    (hb : s.decompressedBuffer.length ≤ s.maxAllowedPacket.toNat)
    (hm : s.maxAllowedPacket.toNat < s.decompressedBuffer.length + cs.flatten.length) :
    CompressedFails s .tooLarge := by
  generalize hseq : s.nextCompressedSeqId = seq at h
  induction h generalizing s
  case nil =>
    rw [List.flatten_nil, List.length_nil] at hm
    omega
  case cons chunk _ _ _ hl _ hd _ ih =>
    rw [List.flatten_cons] at hr hm
    subst hseq
    have ⟨hdue, hi, hrest⟩ := compressedFrame_front hl hd hr
    rw [List.length_append, ← Nat.add_assoc, ← List.length_append] at hm
    by_cases hc : s.maxAllowedPacket.toNat < (s.decompressedBuffer ++ chunk).length
    case pos => exact .tooLarge hdue hi hc
    case neg => exact .next hdue hi (Nat.le_of_not_lt hc) (ih hrest (Nat.le_of_not_lt hc) hm rfl)

end Inflating
end MySQL.PacketStream
