import MysqlRs.Core.PacketStream
import MysqlRs.Runtime.Error

namespace MySQL

-- A stream as it can be in memory.
structure PacketStream.Fits (s : PacketStream) : Prop where
  recvBuffer         : s.recvBuffer.length ≤ isizeMax
  decompressedBuffer : s.decompressedBuffer.length ≤ isizeMax
  recvQueue          : ∀ p ∈ s.recvQueue, p.Fits

theorem PacketStream.Fits.forceClose (s : PacketStream) : s.forceClose.Fits :=
  ⟨Nat.zero_le _, Nat.zero_le _, fun _ h => nomatch h⟩

namespace Runtime

open ClientError Checked Raw
open PacketStream (packetTooLarge sequenceError)

abbrev StreamRaw := Raw Error PacketStream

-- `force_close` and the error that is given after it.
def failClosed {α : Type} (e : Error) : StreamRaw α := do
  modify (·.forceClose)
  throw e

def readInt3 (bytes : Bytes) : Checked Nat := do
  return LittleEndian.decode (← indices usizeMax bytes 0 3)

-- The loops take the number of turns that they may make.
def joinFragments : Nat → Bytes → Bytes → StreamRaw (Bytes × Bytes)
  | 0,         _,    _      => liftM (fault .endless : Checked (Bytes × Bytes))
  | turns + 1, buff, buffer => do
    if buffer.length < 4 then return (buff, buffer)
    let s ← get
    let maxPacket := s.maxAllowedPacket.toNat
    let header ← slice buffer 0 4
    let chunkPayloadLen ← readInt3 (← slice header 0 3)
    if maxPacket < chunkPayloadLen then
      failClosed (packetTooLarge "packet" chunkPayloadLen maxPacket)
    let chunkTotalLen ← add usizeMax 4 chunkPayloadLen
    if buffer.length < chunkTotalLen then return (buff, buffer)
    let packetNumber ← index header 3
    if packetNumber ≠ s.nextSeqId then
      failClosed (sequenceError "Packet" packetNumber s.nextSeqId)
    modify fun s => { s with nextSeqId := s.nextSeqId + 1 }
    let joinedLen := min (buff.length + chunkPayloadLen) usizeMax
    if maxPacket < joinedLen then
      failClosed (packetTooLarge "packet" joinedLen maxPacket)
    let buff := buff ++ (← slice buffer 4 chunkTotalLen)
    let buffer ← sliceFrom buffer chunkTotalLen
    if chunkPayloadLen < maxPacketLen then return (buff, buffer)
    joinFragments turns buff buffer

def parsePlainPackets : Nat → Bytes → Nat → StreamRaw (Nat × Bytes)
  | 0,         _,      _            => liftM (fault .endless : Checked (Nat × Bytes))
  | turns + 1, buffer, packetsAdded => do
    if buffer.length < 4 then return (packetsAdded, buffer)
    let maxPacket := (← get).maxAllowedPacket.toNat
    let header ← slice buffer 0 4
    let payloadLen ← readInt3 (← slice header 0 3)
    if maxPacket < payloadLen then
      failClosed (packetTooLarge "packet" payloadLen maxPacket)
    let totalLen ← add usizeMax 4 payloadLen
    if buffer.length < totalLen then return (packetsAdded, buffer)
    let (buff, buffer) ← joinFragments (turns + 1) [] buffer
    let packet := MysqlPacket.new buff
    if packet.isErrorPacket then
      throw (← raiseForError packet)
    modify fun s => { s with recvQueue := s.recvQueue ++ [packet] }
    let packetsAdded ← add usizeMax packetsAdded 1
    parsePlainPackets turns buffer packetsAdded

-- What a compressed packet carries.
def inflate [Zlib] (payload : Bytes) (uncompressedLen : Nat) : StreamRaw Bytes := do
  if uncompressedLen = 0 then return payload
  match Zlib.decompress payload with
  | .error e =>
    throw (.operationalError CR_UNKNOWN_ERROR s!"Failed to decompress MySQL packet: {e}")
  | .ok decompressed =>
    if decompressed.length ≠ uncompressedLen then
      failClosed (.operationalError CR_UNKNOWN_ERROR
        s!"Decompressed length mismatch: got {decompressed.length} expected {uncompressedLen}")
    return decompressed

def feedCompressedPackets [Zlib] : Nat → StreamRaw Unit
  | 0         => liftM (fault .endless : Checked Unit)
  | turns + 1 => do
    let s ← get
    let maxPacket := s.maxAllowedPacket.toNat
    if s.recvBuffer.length < compressedHeaderLen then return
    let header ← slice s.recvBuffer 0 compressedHeaderLen
    let compressedLen ← readInt3 (← slice header 0 3)
    let compressedSeq ← index header 3
    let uncompressedLen ← readInt3 (← sliceFrom header 4)
    if maxPacketLen < compressedLen then
      failClosed (packetTooLarge "compressed packet" compressedLen maxPacketLen)
    let totalLen ← add usizeMax compressedHeaderLen compressedLen
    if s.recvBuffer.length < totalLen then return
    if compressedSeq ≠ s.nextCompressedSeqId then
      failClosed (sequenceError "Compressed packet" compressedSeq s.nextCompressedSeqId)
    modify fun s => { s with nextCompressedSeqId := s.nextCompressedSeqId + 1 }
    let payload ← slice s.recvBuffer compressedHeaderLen totalLen
    let plain ← inflate payload uncompressedLen
    let decompressedBuffer ← vec isizeMax (s.decompressedBuffer ++ plain)
    modify fun s => { s with decompressedBuffer := decompressedBuffer }
    if maxPacket < decompressedBuffer.length then
      modify (·.forceClose)
      throw (packetTooLarge "packet" (← get).decompressedBuffer.length maxPacket)
    let recvBuffer ← sliceFrom s.recvBuffer totalLen
    modify fun s => { s with recvBuffer := recvBuffer }
    feedCompressedPackets turns

-- `self.recv_buffer.extend_from_slice(data)`
def extendRecvBuffer (data : Bytes) : StreamRaw Unit := do
  let recvBuffer ← vec isizeMax ((← get).recvBuffer ++ data)
  modify fun s => { s with recvBuffer := recvBuffer }

def feedBytes [Zlib] (turns : Nat) (data : Bytes) : StreamRaw Nat := do
  extendRecvBuffer data
  if (← get).compressed then
    feedCompressedPackets turns
  let buffer := (← get).decompressedBuffer
  modify fun s => { s with decompressedBuffer := [] }
  let (packetsAdded, buffer) ← parsePlainPackets turns buffer 0
  modify fun s => { s with decompressedBuffer := buffer }
  if !(← get).compressed then
    let buffer := (← get).recvBuffer
    modify fun s => { s with recvBuffer := [] }
    let (packetsAddedRaw, buffer) ← parsePlainPackets turns buffer 0
    modify fun s => { s with recvBuffer := buffer }
    return (← add usizeMax packetsAdded packetsAddedRaw)
  return packetsAdded

section Reading

variable {bytes : Bytes} {n : Nat}

theorem readInt3_eq (h : 3 ≤ bytes.length) : readInt3 bytes = .ok (MySQL.readInt3 bytes) := by
  rw [readInt3, indices_eq (by omega) (by decide)]
  rfl

theorem readInt3_take (h : 3 ≤ n) : MySQL.readInt3 (bytes.take n) = MySQL.readInt3 bytes := by
  rw [MySQL.readInt3, MySQL.readInt3, List.take_take, Nat.min_eq_left h]

theorem four_add_le (bytes : Bytes) : 4 + MySQL.readInt3 bytes ≤ usizeMax :=
  (Nat.add_le_add_left (readInt3_le bytes) 4).trans (by decide)

theorem getD_take {i : Nat} (h : i < n) : (bytes.take n).getD i 0 = bytes.getD i 0 := by
  rw [List.getD_eq_getElem?_getD, List.getD_eq_getElem?_getD, List.getElem?_take_of_lt h]

end Reading

theorem joinFragments_meets {turns : Nat} (buff : Bytes) {buffer : Bytes} {s : PacketStream} (ht : buffer.length < turns)
    (hs : s.Fits) : Meets PacketStream.Fits
      (fun a b => a = b ∧ a.1.length + a.2.length ≤ buff.length + buffer.length)
      (joinFragments turns buff buffer s) (PacketStream.joinFragments buff buffer s) := by
  induction turns generalizing buff buffer s
  case zero          => exact absurd ht (Nat.not_lt_zero _)
  case succ turns ih =>
    rw [joinFragments, PacketStream.joinFragments]
    refine .ite Iff.rfl (fun _ => .ok ⟨rfl, Nat.le_refl _⟩ hs) fun h4 => ?_
    have h4 := Nat.not_lt.mp h4
    have hl : (buffer.take 4).length = 4 := List.length_take_of_le h4
    refine .get (.step (slice_zero h4) ?_)
    refine .step (slice_zero (by omega)) ?_
    refine .step (readInt3_eq (by simp only [List.length_take]; omega)) ?_
    rw [readInt3_take (Nat.le_refl 3), readInt3_take (by decide)]
    refine .guard Iff.rfl rfl (.forceClose s) fun hm => ?_
    refine .step (add_eq (four_add_le buffer)) ?_
    refine .ite Iff.rfl (fun _ => .ok ⟨rfl, Nat.le_refl _⟩ hs) fun hc => ?_
    refine .step (index_getD 0 (by omega)) ?_
    rw [getD_take (by decide)]
    refine .guard Iff.rfl rfl (.forceClose s) fun hn => ?_
    refine .modify (.guard Iff.rfl rfl (.forceClose _) fun hj => ?_)
    have hc := Nat.not_lt.mp hc
    refine .step (slice_eq (Nat.le_add_right 4 _) hc) ?_
    refine .step (sliceFrom_eq hc) ?_
    rw [Nat.add_sub_cancel_left]
    have hlen : (buff ++ (buffer.drop 4).take (MySQL.readInt3 buffer)).length +
        (buffer.drop (4 + MySQL.readInt3 buffer)).length ≤ buff.length + buffer.length := by
      simp only [List.length_append, List.length_take, List.length_drop]
      omega
    refine .ite Iff.rfl (fun _ => .ok ⟨rfl, hlen⟩ ⟨hs.1, hs.2, hs.3⟩) fun _ => ?_
    refine .mono (ih _ ?_ ⟨hs.1, hs.2, hs.3⟩) fun a b h => ⟨h.left, h.right.trans hlen⟩
    simp only [List.length_drop]
    omega

theorem parsePlainPackets_meets {turns n : Nat} {buffer : Bytes} {s : PacketStream} (ht : buffer.length < turns)
    (hn : n + buffer.length ≤ isizeMax) (hs : s.Fits) : Meets PacketStream.Fits
      (fun a b => a = b ∧ a.1 + a.2.length ≤ n + buffer.length)
      (parsePlainPackets turns buffer n s) (PacketStream.parsePlainPackets buffer n s) := by
  induction turns generalizing n buffer s
  case zero          => exact absurd ht (Nat.not_lt_zero _)
  case succ turns ih =>
    rw [parsePlainPackets, PacketStream.parsePlainPackets]
    simp only [dite_eq_ite]
    refine .ite Iff.rfl (fun _ => .ok ⟨rfl, Nat.le_refl _⟩ hs) fun h4 => ?_
    have h4 := Nat.not_lt.mp h4
    have hl : (buffer.take 4).length = 4 := List.length_take_of_le h4
    refine .get (.step (slice_zero h4) ?_)
    refine .step (slice_zero (by omega)) ?_
    refine .step (readInt3_eq (by simp only [List.length_take]; omega)) ?_
    rw [readInt3_take (Nat.le_refl 3), readInt3_take (by decide)]
    refine .guard Iff.rfl rfl (.forceClose s) fun hm => ?_
    refine .step (add_eq (four_add_le buffer)) ?_
    refine .ite Iff.rfl (fun _ => .ok ⟨rfl, Nat.le_refl _⟩ hs) fun hc => ?_
    have hj := joinFragments_meets [] ht hs
    split
    case h_1 buff rest s' h =>
      refine .bind_ok (h ▸ hj) fun a ha hs' => ?_
      obtain ⟨rfl, hlen⟩ := ha
      have hlen : buff.length + rest.length ≤ buffer.length := by simpa using hlen
      have hlt := PacketStream.joinFragments_length_lt h4 (Nat.not_lt.mp hm) (Nat.not_lt.mp hc) h
      refine .ite Iff.rfl (fun _ => ?_) fun _ => ?_
      · refine .step (raiseForError_eq _) (.error hs')
      · refine .modify (.step (add_eq (by simp only [usizeMax]; simp only [isizeMax] at hn; omega)) ?_)
        refine .mono (ih (by omega) (by omega) ⟨hs'.1, hs'.2, ?_⟩) fun a b h => ⟨h.left, by omega⟩
        intro p hp
        obtain hp | hp := List.mem_append.mp hp
        · exact hs'.recvQueue p hp
        · exact List.mem_singleton.mp hp ▸ ⟨Nat.zero_le _, by simp only [MysqlPacket.new_data]; omega⟩
    case h_2 h => exact .bind_error (h ▸ hj)
    case h_3 h => exact .bind_pending (h ▸ hj)

theorem inflate_meets [Zlib] (payload : Bytes) (n : Nat) {s : PacketStream} (hs : s.Fits) :
    Meets PacketStream.Fits (fun a b => a = b) (inflate payload n s)
      (if n = 0 then .ok payload s
      else
        match Zlib.decompress payload with
        | .error e =>
          .error (.operationalError CR_UNKNOWN_ERROR
            s!"Failed to decompress MySQL packet: {e}") s
        | .ok decompressed =>
          if decompressed.length ≠ n then
            .error (.operationalError CR_UNKNOWN_ERROR
              s!"Decompressed length mismatch: got {decompressed.length} expected {n}")
              s.forceClose
          else .ok decompressed s) := by
  refine .ite Iff.rfl (fun _ => .ok rfl hs) fun _ => ?_
  cases Zlib.decompress payload
  case error e         => exact .error hs
  case ok decompressed => exact .guard Iff.rfl rfl (.forceClose s) fun _ => .ok rfl hs

theorem feedCompressedPackets_meets [Zlib] {turns : Nat} {s : PacketStream} (ht : s.recvBuffer.length < turns)
    (hs : s.Fits) : Meets PacketStream.Fits (fun _ _ => True) (feedCompressedPackets turns s)
      (PacketStream.feedCompressedPackets s) := by
  induction turns generalizing s
  case zero          => exact absurd ht (Nat.not_lt_zero _)
  case succ turns ih =>
    rw [feedCompressedPackets, PacketStream.feedCompressedPackets]
    refine .get (.ite Iff.rfl (fun _ => .ok trivial hs) fun h7 => ?_)
    have h7 : 7 ≤ s.recvBuffer.length := Nat.not_lt.mp h7
    have hl : (s.recvBuffer.take compressedHeaderLen).length = 7 := List.length_take_of_le h7
    refine .step (slice_zero h7) ?_
    refine .step (slice_zero (by omega)) ?_
    refine .step (readInt3_eq (by simp only [List.length_take, compressedHeaderLen]; omega)) ?_
    rw [readInt3_take (Nat.le_refl 3), readInt3_take (by decide)]
    refine .step (index_getD 0 (by omega)) ?_
    rw [getD_take (by decide)]
    refine .step (sliceFrom_eq (by omega)) ?_
    refine .step (readInt3_eq (by simp only [List.length_drop]; omega)) ?_
    rw [List.drop_take, readInt3_take (by decide)]
    refine .guard Iff.rfl rfl (.forceClose s) fun _ => ?_
    refine .step (add_eq ((Nat.add_le_add_left (readInt3_le _) 7).trans (by decide))) ?_
    refine .ite Iff.rfl (fun _ => .ok trivial hs) fun hc => ?_
    refine .guard Iff.rfl rfl (.forceClose s) fun _ => ?_
    have hc := Nat.not_lt.mp hc
    refine .modify (.step (slice_eq (Nat.le_add_right _ _) hc) ?_)
    have hi := inflate_meets ((s.recvBuffer.take (compressedHeaderLen + MySQL.readInt3 s.recvBuffer)).drop
      compressedHeaderLen) (MySQL.readInt3 (s.recvBuffer.drop 4))
      (s := { s with nextCompressedSeqId := s.nextCompressedSeqId + 1 }) ⟨hs.1, hs.2, hs.3⟩
    dsimp only at hi ⊢
    generalize (if MySQL.readInt3 (s.recvBuffer.drop 4) = 0 then _ else _ : Outcome Error PacketStream Bytes) = o at hi ⊢
    rw [← List.drop_take]
    obtain plain | e | _ := o
    case ok t =>
      refine .bind_ok hi fun a ha ht => ?_
      obtain rfl := ha
      refine .lift (vec_returns _) fun buffer hb => ?_
      obtain ⟨rfl, hb⟩ := hb
      refine .modify (.ite Iff.rfl (fun _ => .error (.forceClose _)) fun _ => ?_)
      refine .step (sliceFrom_eq hc) (.modify (ih ?_ ⟨?_, hb, ht.3⟩))
      · simp only [List.length_drop, compressedHeaderLen]
        omega
      · exact (List.drop_suffix _ _).length_le.trans hs.recvBuffer
    case error => exact .bind_error hi
    case pending => exact .bind_pending hi

theorem extendRecvBuffer_sound (data : Bytes) : Sound PacketStream.Fits (fun _ _ => True) (extendRecvBuffer data)
    (modify fun s => { s with recvBuffer := s.recvBuffer ++ data }) := by
  intro s hs
  refine .get (.lift (vec_returns _) fun buffer hb => ?_)
  obtain ⟨rfl, hb⟩ := hb
  exact .ok trivial ⟨hb, hs.2, hs.3⟩

section Feeding

variable {turns : Nat} (ht : isizeMax < turns)

include ht

theorem parsePlainPackets_sound {buffer : Bytes} (hb : buffer.length ≤ isizeMax) :
    Sound PacketStream.Fits (fun a b => a = b ∧ a.1 ≤ isizeMax ∧ a.2.length ≤ isizeMax)
      (parsePlainPackets turns buffer 0) (PacketStream.parsePlainPackets buffer 0) := by
  intro s hs
  refine .mono (parsePlainPackets_meets (by omega) (by omega) hs) fun a b h => ⟨h.left, by omega, by omega⟩

theorem feedCompressedPackets_sound [Zlib] : Sound PacketStream.Fits (fun _ _ => True)
    (feedCompressedPackets turns) PacketStream.feedCompressedPackets :=
  fun _ hs => feedCompressedPackets_meets (Nat.lt_of_le_of_lt hs.recvBuffer ht) hs

theorem feedBytes_sound [Zlib] (data : Bytes) :
    Sound PacketStream.Fits (fun a b => a = b) (feedBytes turns data) (PacketStream.feedBytes data) := by
  refine .bind (extendRecvBuffer_sound data) fun _ _ _ => ?_
  refine .bind .get fun s t h => ?_
  obtain ⟨rfl, -⟩ := h
  refine .optional Iff.rfl (fun _ => feedCompressedPackets_sound ht) ?_
  refine .bind .get fun s t h => ?_
  obtain ⟨rfl, hs⟩ := h
  refine .bind (.modify fun s hs => ⟨hs.1, Nat.zero_le _, hs.3⟩) fun _ _ _ => ?_
  refine .bind (parsePlainPackets_sound ht hs.decompressedBuffer) fun a b h => ?_
  obtain ⟨rfl, hn, hl⟩ := h
  refine .bind (.modify fun s hs => ⟨hs.1, hl, hs.3⟩) fun _ _ _ => ?_
  refine .bind .get fun s t h => ?_
  obtain ⟨rfl, -⟩ := h
  refine .ite Iff.rfl (fun _ => ?_) fun _ => .pure rfl
  refine .bind .get fun s t h => ?_
  obtain ⟨rfl, hs⟩ := h
  refine .bind (.modify fun s hs => ⟨Nat.zero_le _, hs.2, hs.3⟩) fun _ _ _ => ?_
  refine .bind (parsePlainPackets_sound ht hs.recvBuffer) fun a b h => ?_
  obtain ⟨rfl, hn', hl'⟩ := h
  refine .bind (.modify fun s hs => ⟨hl', hs.2, hs.3⟩) fun _ _ _ => ?_
  exact .value (add_eq ((Nat.add_le_add hn hn').trans (by decide))) rfl

end Feeding

end Runtime
end MySQL
