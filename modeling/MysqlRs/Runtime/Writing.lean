import MysqlRs.Framing.Fragments
import MysqlRs.Runtime.PacketStream

namespace MySQL
namespace Runtime

open ClientError Checked Raw
open PacketStream (packetTooLarge fragment plainPackets plainPackets_short plainPackets_long maxPacketLen_pos)

-- `&payload[offset..offset + chunk_len]`, for an empty chunk `&payload[offset..offset]`.
def chunkAt (payload : Bytes) (offset chunkLen : Nat) : Checked Bytes := do
  if chunkLen = 0 then slice payload offset offset
  else slice payload offset (← add usizeMax offset chunkLen)

-- The loop of `buildPlainPackets`.
def appendPlainPackets (payload : Bytes) : Nat → Nat → Bytes → StreamRaw Bytes
  | 0,         _,      _    => liftM (fault .endless : Checked Bytes)
  | turns + 1, offset, data => do
    let remaining ← sub payload.length offset
    let chunkLen := min remaining maxPacketLen
    let chunk ← chunkAt payload offset chunkLen
    let data ← vec isizeMax (data ++ writeInt3 chunk.length ++ [(← get).nextSeqId] ++ chunk)
    modify fun s => { s with nextSeqId := s.nextSeqId + 1 }
    if chunkLen < maxPacketLen then return data
    let offset ← add usizeMax offset chunkLen
    appendPlainPackets payload turns offset data

def buildPlainPackets (turns : Nat) (payload : Bytes) : StreamRaw Bytes := do
  let _capacity ← add usizeMax payload.length 4
  appendPlainPackets payload turns 0 []

def compressedPacket [Zlib] (chunk : Bytes) : StreamRaw Unit := do
  let compressed ← (Zlib.compress chunk).mapError fun e =>
    Error.operationalError CR_UNKNOWN_ERROR s!"Failed to compress MySQL packet: {e}"
  let (body, uncompressedField) :=
    if chunk.length ≤ compressed.length then (chunk, 0) else (compressed, chunk.length)
  if maxPacketLen < body.length then
    throw (packetTooLarge "compressed packet" body.length maxPacketLen)
  let _capacity ← add usizeMax compressedHeaderLen body.length
  modify fun s => {
    s with
    sendQueue := s.sendQueue ++
      [writeInt3 body.length ++ [s.nextCompressedSeqId] ++ writeInt3 uncompressedField ++ body]
    nextCompressedSeqId := s.nextCompressedSeqId + 1
  }

-- The loop of `writeCompressedPacket`.
def compressedPackets [Zlib] (plain : Bytes) : Nat → Nat → StreamRaw Unit
  | 0,         _      => liftM (fault .endless : Checked Unit)
  | turns + 1, offset => do
    if offset < plain.length then
      let stop := min (← add usizeMax offset maxPacketLen) plain.length
      let chunk ← slice plain offset stop
      compressedPacket chunk
      compressedPackets plain turns stop
    else return

def writeCompressedPacket [Zlib] (turns : Nat) (payload : Bytes) : StreamRaw Unit := do
  let plain ← buildPlainPackets turns payload
  compressedPackets plain turns 0

def writePacket [Zlib] (turns : Nat) (payload : Bytes) : StreamRaw Unit := do
  if (← get).compressed then
    writeCompressedPacket turns payload
  else
    let data ← buildPlainPackets turns payload
    modify fun s => { s with sendQueue := s.sendQueue ++ [data] }

theorem chunkAt_eq {payload : Bytes} {offset chunkLen : Nat} (h : offset + chunkLen ≤ payload.length)
    (hp : payload.length ≤ isizeMax) :
    chunkAt payload offset chunkLen = .ok ((payload.drop offset).take chunkLen) := by
  rw [chunkAt]
  split_ifs
  case pos h₀ =>
    rw [slice_eq (Nat.le_refl _) (by omega), Nat.sub_self, h₀]
  case neg =>
    rw [add_eq (h.trans (hp.trans (by decide))), ok_bind, slice_eq (Nat.le_add_right _ _) h,
      Nat.add_sub_cancel_left]

theorem appendPlainPackets_meets {payload : Bytes} (hp : payload.length ≤ isizeMax) {turns offset : Nat}
    {data : Bytes} {s : PacketStream} (ht : payload.length < turns + offset) (ho : offset ≤ payload.length)
    (hs : s.Fits) : Meets PacketStream.Fits (fun a b => a = b ∧ a.length ≤ isizeMax)
      (appendPlainPackets payload turns offset data s)
      (.ok (data ++ (plainPackets s.nextSeqId (payload.drop offset)).1)
        { s with nextSeqId := (plainPackets s.nextSeqId (payload.drop offset)).2 }) := by
  induction turns generalizing offset data s
  case zero          => omega
  case succ turns ih =>
    have hl : (payload.drop offset).length = payload.length - offset := List.length_drop ..
    have hu : isizeMax ≤ usizeMax := by decide
    rw [appendPlainPackets]
    refine .step (sub_eq ho) (.step (chunkAt_eq (by omega) hp) ?_)
    rw [← hl, Nat.min_comm, ← List.take_eq_take_min]
    refine .get (.lift (vec_returns _) fun next hn => .modify ?_)
    obtain ⟨rfl, hn⟩ := hn
    by_cases h : (payload.drop offset).length < maxPacketLen
    case pos =>
      rw [Nat.min_eq_right (Nat.le_of_lt h), if_pos h, plainPackets_short h]
      rw [List.take_of_length_le (Nat.le_of_lt h)] at hn ⊢
      exact .ok ⟨by simp only [fragment, List.append_assoc], hn⟩ ⟨hs.1, hs.2, hs.3⟩
    case neg =>
      have h := Nat.le_of_not_lt h
      have hpos := maxPacketLen_pos
      obtain ⟨stop, hstop⟩ : ∃ stop, stop = offset + maxPacketLen := ⟨_, rfl⟩
      have hadd : add usizeMax offset maxPacketLen = .ok stop := hstop ▸ add_eq (by omega)
      rw [Nat.min_eq_left h, if_neg (Nat.lt_irrefl _), plainPackets_long h, List.drop_drop, ← hstop, hadd]
      refine .step rfl ?_
      simp only [fragment, ← List.append_assoc]
      exact ih (by omega) (by omega) ⟨hs.1, hs.2, hs.3⟩

theorem buildPlainPackets_sound {payload : Bytes} (hp : payload.length ≤ isizeMax) {turns : Nat}
    (ht : isizeMax < turns) : Sound PacketStream.Fits (fun a b => a = b ∧ a.length ≤ isizeMax)
      (buildPlainPackets turns payload) (PacketStream.buildPlainPackets payload) := by
  intro s hs
  have h4 : isizeMax + 4 ≤ usizeMax := by decide
  exact .step (add_eq (by omega)) (appendPlainPackets_meets hp (by omega) (Nat.zero_le _) hs)

theorem compressedPacket_sound [Zlib] (chunk : Bytes) :
    Sound PacketStream.Fits (fun _ _ => True) (compressedPacket chunk) (PacketStream.compressedPacket chunk) := by
  refine .bind (.ofExcept _) fun a b h => ?_
  obtain rfl := h
  generalize (if chunk.length ≤ a.length then (chunk, 0) else (a, chunk.length)) = packed
  obtain ⟨body, uncompressedField⟩ := packed
  refine .guard Iff.rfl fun hb => ?_
  have hb : compressedHeaderLen + body.length ≤ usizeMax :=
    (Nat.add_le_add_left (Nat.not_lt.mp hb) _).trans (by decide)
  exact .step (add_eq hb) (.modify fun s hs => ⟨hs.1, hs.2, hs.3⟩)

theorem compressedPackets_sound [Zlib] {plain : Bytes} (hp : plain.length ≤ isizeMax) {turns offset : Nat}
    (ht : plain.length < turns + offset) (ho : offset ≤ plain.length) : Sound PacketStream.Fits (fun _ _ => True)
      (compressedPackets plain turns offset) (PacketStream.compressedPackets (plain.drop offset)) := by
  induction turns generalizing offset
  case zero          => omega
  case succ turns ih =>
    rw [compressedPackets, PacketStream.compressedPackets, dite_eq_ite]
    by_cases h : offset < plain.length
    case neg =>
      rw [if_neg h, if_pos (List.drop_eq_nil_of_le (Nat.not_lt.mp h))]
      exact .pure trivial
    case pos =>
      have hne : plain.drop offset ≠ [] := by simpa using h
      rw [if_pos h, if_neg hne]
      have hadd : add usizeMax offset maxPacketLen = .ok (offset + maxPacketLen) :=
        add_eq ((Nat.add_le_add h.le (Nat.le_refl _)).trans ((Nat.add_le_add_right hp _).trans (by decide)))
      rw [hadd]
      refine .step rfl ?_
      have hpos := maxPacketLen_pos
      generalize maxPacketLen = m at *
      refine .step (slice_eq (by omega) (Nat.min_le_right _ _)) ?_
      have hchunk : (plain.drop offset).take (min (offset + m) plain.length - offset) = (plain.drop offset).take m := by
        rw [List.take_eq_take_iff, List.length_drop]
        omega
      have hrest : (plain.drop offset).drop m = plain.drop (min (offset + m) plain.length) := by
        rw [List.drop_drop]
        obtain hle | hle := Nat.le_total (offset + m) plain.length
        · rw [Nat.min_eq_left hle]
        · rw [Nat.min_eq_right hle, List.drop_length, List.drop_eq_nil_of_le hle]
      rw [hchunk, hrest]
      exact .bind (compressedPacket_sound _) fun _ _ _ => ih (by omega) (Nat.min_le_right _ _)

theorem writePacket_sound [Zlib] {payload : Bytes} (hp : payload.length ≤ isizeMax) {turns : Nat}
    (ht : isizeMax < turns) : Sound PacketStream.Fits (fun _ _ => True) (writePacket turns payload)
      (PacketStream.writePacket payload) := by
  refine .bind .get fun s t h => ?_
  obtain ⟨rfl, -⟩ := h
  refine .ite Iff.rfl (fun _ => ?_) fun _ => ?_
  · refine .bind (buildPlainPackets_sound hp ht) fun plain _ h => ?_
    obtain ⟨rfl, hl⟩ := h
    exact compressedPackets_sound hl (by omega) (Nat.zero_le _)
  · refine .bind (buildPlainPackets_sound hp ht) fun data _ h => ?_
    obtain ⟨rfl, -⟩ := h
    exact .modify fun s hs => ⟨hs.1, hs.2, hs.3⟩

end Runtime
end MySQL
