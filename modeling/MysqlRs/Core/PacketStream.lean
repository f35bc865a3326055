import MysqlRs.Library.Outcome
import MysqlRs.Core.Libraries
import MysqlRs.Core.Packet

namespace MySQL

open ClientError

def maxPacketLen : Nat := 2 ^ 24 - 1

def compressedHeaderLen : Nat := 7

def readInt3 (bytes : Bytes) : Nat :=
  LittleEndian.decode (bytes.take 3)

def writeInt3 (value : Nat) : Bytes :=
  LittleEndian.encode 3 value

theorem readInt3_le (buffer : Bytes) : readInt3 buffer ≤ maxPacketLen := by
  have h := LittleEndian.decode_lt (buffer.take 3)
  have hl : (buffer.take 3).length ≤ 3 := List.length_take_le ..
  have := Nat.pow_le_pow_right (n := 256) (by decide) hl
  rw [readInt3, maxPacketLen]
  omega

@[ext]
structure PacketStream where
  sendQueue : List Bytes
  recvBuffer : Bytes
  decompressedBuffer : Bytes
  recvQueue : List MysqlPacket
  nextSeqId : UInt8
  nextCompressedSeqId : UInt8
  maxAllowedPacket : UInt64
  compressed : Bool
  deriving DecidableEq

namespace PacketStream

def new (maxAllowedPacket : UInt64) : PacketStream where
  sendQueue := []
  recvBuffer := []
  decompressedBuffer := []
  recvQueue := []
  nextSeqId := 0
  nextCompressedSeqId := 0
  maxAllowedPacket := maxAllowedPacket
  compressed := false

def enableCompression (s : PacketStream) : PacketStream :=
  { s with compressed := true, nextCompressedSeqId := 0 }

def resetSeqId (s : PacketStream) : PacketStream :=
  { s with nextSeqId := 0, nextCompressedSeqId := 0 }

def forceClose (s : PacketStream) : PacketStream :=
  { s with sendQueue := [], recvQueue := [], recvBuffer := [], decompressedBuffer := [] }

-- A fragment on the wire: the length of the chunk, the sequence number and the chunk itself.
def fragment (seq : UInt8) (chunk : Bytes) : Bytes :=
  writeInt3 chunk.length ++ [seq] ++ chunk

-- The bytes of one payload together with the sequence number that comes after them. A payload of
-- `maxPacketLen` bytes or more is split, and a full fragment is always followed by another one.
def plainPackets (seq : UInt8) (payload : Bytes) : Bytes × UInt8 :=
  let chunk := payload.take maxPacketLen
  if _h : chunk.length < maxPacketLen then
    (fragment seq chunk, seq + 1)
  else
    let (more, next) := plainPackets (seq + 1) (payload.drop maxPacketLen)
    (fragment seq chunk ++ more, next)
termination_by payload.length
decreasing_by
  simp only [chunk, List.length_take, maxPacketLen] at _h
  simp only [List.length_drop, maxPacketLen]
  omega

def buildPlainPackets (payload : Bytes) : Proc Error PacketStream Bytes := fun s =>
  let (data, next) := plainPackets s.nextSeqId payload
  .ok data { s with nextSeqId := next }

def packetTooLarge (kind : String) (len max : Nat) : Error :=
  .operationalError CR_NET_PACKET_TOO_LARGE
    s!"Got {kind} larger than 'max_allowed_packet' bytes ({len} > {max})"

def sequenceError (kind : String) (got expected : UInt8) : Error :=
  if got = 0 then
    .operationalError CR_SERVER_LOST "Lost connection to MySQL server during query"
  else
    .internalError CR_COMMANDS_OUT_OF_SYNC
      s!"{kind} sequence number wrong - got {got} expected {expected}"

-- One compressed packet: the chunk is sent as it is when compressing does not make it shorter.
def compressedPacket [Zlib] (chunk : Bytes) : Proc Error PacketStream Unit := do
  let compressed ← Proc.ofExcept <| (Zlib.compress chunk).mapError fun e =>
    .operationalError CR_UNKNOWN_ERROR s!"Failed to compress MySQL packet: {e}"
  let (body, uncompressedField) :=
    if chunk.length ≤ compressed.length then (chunk, 0) else (compressed, chunk.length)
  if maxPacketLen < body.length then
    Proc.throw (packetTooLarge "compressed packet" body.length maxPacketLen)
  modify fun s => {
    s with
    sendQueue := s.sendQueue ++
      [writeInt3 body.length ++ [s.nextCompressedSeqId] ++ writeInt3 uncompressedField ++ body]
    nextCompressedSeqId := s.nextCompressedSeqId + 1
  }

def compressedPackets [Zlib] (plain : Bytes) : Proc Error PacketStream Unit :=
  if _h : plain = [] then pure ()
  else do
    compressedPacket (plain.take maxPacketLen)
    compressedPackets (plain.drop maxPacketLen)
termination_by plain.length
decreasing_by
  have := List.length_pos_iff.mpr ‹_›
  simp only [List.length_drop, maxPacketLen]
  omega

def writeCompressedPacket [Zlib] (payload : Bytes) : Proc Error PacketStream Unit := do
  compressedPackets (← buildPlainPackets payload)

def writePacket [Zlib] (payload : Bytes) : Proc Error PacketStream Unit := do
  if (← get).compressed then
    writeCompressedPacket payload
  else
    let data ← buildPlainPackets payload
    modify fun s => { s with sendQueue := s.sendQueue ++ [data] }

-- What has been received and has not been taken.
def unread (s : PacketStream) : Bytes × Bytes × List MysqlPacket :=
  (s.recvBuffer, s.decompressedBuffer, s.recvQueue)

theorem compressedPacket_unread [Zlib] (chunk : Bytes) : (compressedPacket chunk).Keeps unread := by
  refine .bind (.ofExcept _) fun compressed => ?_
  split
  split
  case isTrue  => exact .bind (.throw _) fun _ => .modify fun _ => rfl
  case isFalse => exact .modify fun _ => rfl

theorem compressedPackets_unread [Zlib] (plain : Bytes) : (compressedPackets plain).Keeps unread := by
  fun_induction compressedPackets plain
  case case1    => exact .pure ()
  case case2 ih => exact .bind (compressedPacket_unread _) fun _ => ih

-- Writing does not touch what has been received.
theorem writePacket_unread [Zlib] (payload : Bytes) : (writePacket payload).Keeps unread := by
  have build : (buildPlainPackets payload).Keeps unread := by
    intro s data s' h
    cases h
    rfl
  refine .bind .get fun s => ?_
  split
  · exact .bind build compressedPackets_unread
  · exact .bind build fun _ => .modify fun _ => rfl

theorem writePacket_recvQueue [Zlib] (payload : Bytes) : (writePacket payload).Keeps (·.recvQueue) := by
  intro s a s' h
  exact congrArg (·.2.2) (writePacket_unread payload h)

-- The inner loop of `parsePlainPackets`: joins fragments into `buff` and gives back what is left of
-- the buffer. It also stops where the next fragment has not arrived.
def joinFragments (buff buffer : Bytes) : Proc Error PacketStream (Bytes × Bytes) := fun s =>
  if buffer.length < 4 then .ok (buff, buffer) s
  else
    let maxPacket := s.maxAllowedPacket.toNat
    let chunkPayloadLen := readInt3 buffer
    if maxPacket < chunkPayloadLen then
      .error (packetTooLarge "packet" chunkPayloadLen maxPacket) s.forceClose
    else if buffer.length < 4 + chunkPayloadLen then .ok (buff, buffer) s
    else
      let packetNumber := buffer.getD 3 0
      if packetNumber ≠ s.nextSeqId then
        .error (sequenceError "Packet" packetNumber s.nextSeqId) s.forceClose
      else
        let s := { s with nextSeqId := s.nextSeqId + 1 }
        if maxPacket < min (buff.length + chunkPayloadLen) usizeMax then
          .error (packetTooLarge "packet" (min (buff.length + chunkPayloadLen) usizeMax) maxPacket)
            s.forceClose
        else
          let buff := buff ++ (buffer.drop 4).take chunkPayloadLen
          let buffer := buffer.drop (4 + chunkPayloadLen)
          if chunkPayloadLen < maxPacketLen then .ok (buff, buffer) s
          else joinFragments buff buffer s
termination_by buffer.length
decreasing_by
  simp only [List.length_drop]
  omega

theorem joinFragments_length_le {buff buffer : Bytes} {s s' : PacketStream} {r : Bytes × Bytes}
    (h : joinFragments buff buffer s = .ok r s') : r.2.length ≤ buffer.length := by
  fun_induction joinFragments buff buffer s
  case case1 | case3 => cases h; exact Nat.le_refl _
  case case6         => exact (Outcome.ok.inj h).left ▸ (List.drop_suffix _ _).length_le
  case case7 ih      => exact Nat.le_trans (ih h) (List.drop_suffix _ _).length_le
  all_goals exact nomatch h

-- The loop of `parsePlainPackets` gets here only when the first fragment is complete.
theorem joinFragments_length_lt {buff buffer : Bytes} {s s' : PacketStream} {r : Bytes × Bytes}
    (hb : 4 ≤ buffer.length) (hm : readInt3 buffer ≤ s.maxAllowedPacket.toNat)
    (hc : 4 + readInt3 buffer ≤ buffer.length) (h : joinFragments buff buffer s = .ok r s') :
    r.2.length < buffer.length := by
  rw [joinFragments] at h
  simp only [Nat.not_lt.mpr hb, Nat.not_lt.mpr hm, Nat.not_lt.mpr hc, if_false] at h
  repeat' split at h
  all_goals try cases h
  · simp only [List.length_drop]; omega
  · have := joinFragments_length_le h
    simp only [List.length_drop] at this
    omega

-- Moves the complete packets of the buffer to the receive queue. Gives back their number and what is
-- left of the buffer, which the caller loses when this fails.
def parsePlainPackets (buffer : Bytes) (packetsAdded : Nat) :
    Proc Error PacketStream (Nat × Bytes) := fun s =>
  if _hb : buffer.length < 4 then .ok (packetsAdded, buffer) s
  else
    let maxPacket := s.maxAllowedPacket.toNat
    let payloadLen := readInt3 buffer
    if _hm : maxPacket < payloadLen then
      .error (packetTooLarge "packet" payloadLen maxPacket) s.forceClose
    else if _hc : buffer.length < 4 + payloadLen then .ok (packetsAdded, buffer) s
    else
      match h : joinFragments [] buffer s with
      | .ok (buff, buffer) s =>
        let packet := MysqlPacket.new buff
        if packet.isErrorPacket then .error packet.raiseForError s
        else parsePlainPackets buffer (packetsAdded + 1)
          { s with recvQueue := s.recvQueue ++ [packet] }
      | .error e s => .error e s
      | .pending s => .pending s
termination_by buffer.length
decreasing_by
  exact joinFragments_length_lt (Nat.not_lt.mp ‹_›) (Nat.not_lt.mp ‹_›) (Nat.not_lt.mp ‹_›) h

-- Moves the compressed packets of `recvBuffer` to `decompressedBuffer`.
def feedCompressedPackets [Zlib] : Proc Error PacketStream Unit := fun s =>
  let maxPacket := s.maxAllowedPacket.toNat
  if s.recvBuffer.length < compressedHeaderLen then .ok () s
  else
    let compressedLen := readInt3 s.recvBuffer
    let compressedSeq := s.recvBuffer.getD 3 0
    let uncompressedLen := readInt3 (s.recvBuffer.drop 4)
    if maxPacketLen < compressedLen then
      .error (packetTooLarge "compressed packet" compressedLen maxPacketLen) s.forceClose
    else
      let totalLen := compressedHeaderLen + compressedLen
      if s.recvBuffer.length < totalLen then .ok () s
      else if compressedSeq ≠ s.nextCompressedSeqId then
        .error (sequenceError "Compressed packet" compressedSeq s.nextCompressedSeqId) s.forceClose
      else
        let s' := { s with nextCompressedSeqId := s.nextCompressedSeqId + 1 }
        let payload := (s.recvBuffer.take totalLen).drop compressedHeaderLen
        let inflated : Outcome Error PacketStream Bytes :=
          if uncompressedLen = 0 then .ok payload s'
          else
            match Zlib.decompress payload with
            | .error e =>
              .error (.operationalError CR_UNKNOWN_ERROR
                s!"Failed to decompress MySQL packet: {e}") s'
            | .ok decompressed =>
              if decompressed.length ≠ uncompressedLen then
                .error (.operationalError CR_UNKNOWN_ERROR
                  s!"Decompressed length mismatch: got {decompressed.length} expected {uncompressedLen}")
                  s'.forceClose
              else .ok decompressed s'
        match inflated with
        | .error e s => .error e s
        | .pending s => .pending s
        | .ok plain s' =>
          let decompressedBuffer := s.decompressedBuffer ++ plain
          if maxPacket < decompressedBuffer.length then
            -- The text is made when the buffer has been cleared.
            let s' := s'.forceClose
            .error (packetTooLarge "packet" s'.decompressedBuffer.length maxPacket) s'
          else
            feedCompressedPackets {
              s' with
              decompressedBuffer := decompressedBuffer
              recvBuffer := s.recvBuffer.drop totalLen
            }
termination_by s => s.recvBuffer.length
decreasing_by
  simp only [compressedHeaderLen, List.length_drop] at *
  omega

-- Both buffers are taken out of the stream while they are parsed, so a failure loses them.
def feedBytes [Zlib] (data : Bytes) : Proc Error PacketStream Nat := do
  modify fun s => { s with recvBuffer := s.recvBuffer ++ data }
  if (← get).compressed then
    feedCompressedPackets
  let buffer := (← get).decompressedBuffer
  modify fun s => { s with decompressedBuffer := [] }
  let (packetsAdded, buffer) ← parsePlainPackets buffer 0
  modify fun s => { s with decompressedBuffer := buffer }
  if !(← get).compressed then
    let buffer := (← get).recvBuffer
    modify fun s => { s with recvBuffer := [] }
    let (packetsAddedRaw, buffer) ← parsePlainPackets buffer 0
    modify fun s => { s with recvBuffer := buffer }
    return packetsAdded + packetsAddedRaw
  return packetsAdded

def readPacket : Proc Error PacketStream MysqlPacket := fun s =>
  match s.recvQueue with
  | packet :: queue => .ok packet { s with recvQueue := queue }
  | []              => .error .needMoreData s

end PacketStream
end MySQL
