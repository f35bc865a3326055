import MysqlRs.Auth.Machine
import MysqlRs.Runtime.Result
import MysqlRs.Runtime.Writing

namespace MySQL

-- A connection as it can be in memory.
structure Connection.Fits (c : Connection) : Prop where
  packetStream : c.packetStream.Fits

namespace Runtime

open ClientError Client Checked Raw
open Connection (trimNul)

abbrev ConnRaw := Raw Error Connection

-- Runs an operation of the packet stream.
def onStream {α : Type} (x : StreamRaw α) : ConnRaw α :=
  x.zoom Connection.packetStream fun s c => c.setStream s

def readPacket : ConnRaw MysqlPacket :=
  onStream do
    match (← get).recvQueue with
    | packet :: queue =>
      modify fun s => { s with recvQueue := queue }
      return packet
    | []              => throw .needMoreData

-- The end of the greeting, from the place `i` on.
def readAuthPluginName (data : Bytes) (i : Nat) : ConnRaw Unit := do
  if data.length ≤ i then return
  let i ← add usizeMax i 1
  if (← get).serverCapabilities &&& PLUGIN_AUTH ≠ 0 ∧ i < data.length then
    let rest ← sliceFrom data i
    match rest.findIdx? (· = 0) with
    | some p =>
      let name ← slice data i (← add usizeMax i p)
      modify (·.setAuthPluginName (AuthPlugin.fromBytes name))
    | none   =>
      let name ← sliceFrom data i
      modify (·.setAuthPluginName (AuthPlugin.fromBytes name))

-- Takes the greeting apart, with `i` as the place that has been reached.
def getServerInformation : ConnRaw Unit := do
  let packet ← readPacket
  let data := packet.data
  let i := 0
  if data.length ≤ i then throw (handshakeError "empty")
  let version ← index data i
  modify ({ · with protocolVersion := version })
  let i ← add usizeMax i 1
  if data.length ≤ i then throw (handshakeError "missing server version")
  let rest ← sliceFrom data i
  match rest.findIdx? (· = 0) with
  | none   => throw (handshakeError "server version is not null-terminated")
  | some p =>
    let serverEnd ← add usizeMax i p
    let serverVersion ← slice data i serverEnd
    modify ({ · with serverVersion := Text.fromUtf8Lossy serverVersion })
    let i ← add usizeMax serverEnd 1
    if data.length < (← add usizeMax i 4) then throw (handshakeError "missing thread id")
    let threadId ← indices usizeMax data i 4
    modify ({ · with serverThreadId := UInt32.ofNat (LittleEndian.decode threadId) })
    let i ← add usizeMax i 4
    if data.length < (← add usizeMax i 9) then throw (handshakeError "missing salt part 1")
    let salt ← slice data i (← add usizeMax i 8)
    modify (·.setSalt salt)
    let i ← add usizeMax i 9
    if data.length < (← add usizeMax i 2) then throw (handshakeError "missing capability flags")
    let capabilities ← indices usizeMax data i 2
    modify ({ · with serverCapabilities := UInt32.ofNat (LittleEndian.decode capabilities) })
    let i ← add usizeMax i 2
    let i ←
      if (← add usizeMax i 6) ≤ data.length then do
        let language ← index data i
        let status ← indices usizeMax data (← add usizeMax i 1) 2
        let high ← indices usizeMax data (← add usizeMax i 3) 2
        let saltLen ← index data (← add usizeMax i 5)
        let i ← add usizeMax i 6
        let saltLen := max (saltLen.toNat - 9) 12
        modify fun c => {
          c with
          serverLanguage := language
          serverCharset := (Charset.byId language.toUInt16).map (·.name)
          serverStatus := UInt16.ofNat (LittleEndian.decode status)
          serverCapabilities := c.serverCapabilities ||| UInt32.ofNat (LittleEndian.decode high) <<< 16
        }
        if data.length < (← add usizeMax i 10) then throw (handshakeError "missing reserved bytes")
        let i ← add usizeMax i 10
        if (← add usizeMax i saltLen) ≤ data.length then
          let more ← slice data i (← add usizeMax i saltLen)
          modify fun c => c.setSalt (c.salt ++ more)
          pure (← add usizeMax i saltLen)
        else
          pure i
      else do
        pure (← add usizeMax i 10)
    readAuthPluginName data i

theorem onStream_sound {α β : Type} {r : α → β → Prop} {x : StreamRaw α} {y : Proc Error PacketStream β}
    (h : Sound PacketStream.Fits r x y) : Sound Connection.Fits r (onStream x) (Connection.onStream y) :=
  .zoom h (fun _ hc => hc.packetStream) fun _ _ _ hs => ⟨hs⟩

theorem readPacket_sound : Sound Connection.Fits (fun a b => a = b ∧ a.Fits) readPacket Connection.readPacket := by
  refine onStream_sound fun s hs => .get ?_
  rw [PacketStream.readPacket]
  cases h : s.recvQueue
  case nil               => exact .error hs
  case cons packet queue =>
    have hq := h ▸ hs.recvQueue
    refine .ok ⟨rfl, hq packet List.mem_cons_self⟩ ⟨hs.1, hs.2, fun p hp => ?_⟩
    exact hq p (List.mem_cons_of_mem packet hp)

section Greeting

variable {data : Bytes} {i n : Nat}

theorem length_lt_iff (h : i ≤ data.length) : data.length < i + n ↔ (data.drop i).length < n := by
  rw [List.length_drop]
  omega

theorem add_small (hd : data.length ≤ isizeMax) (h : i ≤ data.length) (hn : n ≤ 256) :
    add usizeMax i n = .ok (i + n) := by
  refine add_eq ?_
  have : isizeMax + 256 ≤ usizeMax := by decide
  omega

-- The bytes of the next field are there, or the greeting is malformed.
theorem field_sound {α β : Type} {r : α → β → Prop} {f : PUnit → ConnRaw α} {g : PUnit → Proc Error Connection β}
    {e : Error} (hd : data.length ≤ isizeMax) (hi : i ≤ data.length) (hn : n ≤ 256)
    (h : i + n ≤ data.length → Sound Connection.Fits r (f ⟨⟩) (g ⟨⟩)) :
    Sound Connection.Fits r (do
      let stop ← add usizeMax i n
      if data.length < stop then throw e >>= f else f ⟨⟩ : ConnRaw α)
      (if (data.drop i).length < n then Proc.throw e >>= g else g ⟨⟩) :=
  .step (add_small hd hi hn) (.guard (length_lt_iff hi) fun hl => h (Nat.not_lt.mp hl))

theorem slice_add_eq (data : Bytes) (i n : Nat) (h : i + n ≤ data.length) :
    slice data i (i + n) = .ok ((data.drop i).take n) := by
  rw [slice_eq (Nat.le_add_right i n) h, Nat.add_sub_cancel_left]

theorem getD_drop (data : Bytes) (i k : Nat) : (data.drop i).getD k 0 = data.getD (i + k) 0 := by
  rw [List.getD_eq_getElem?_getD, List.getElem?_drop, List.getD_eq_getElem?_getD]

theorem saltLen_le (b : UInt8) : max (b.toNat - 9) 12 ≤ 256 := by
  have := b.toNat_lt
  omega

theorem readAuthPluginName_sound (hd : data.length ≤ isizeMax) (i : Nat) :
    Sound Connection.Fits (fun _ _ => True) (readAuthPluginName data i) (do
      if data.drop i = [] then return
      let name := (data.drop i).drop 1
      if (← get).serverCapabilities &&& PLUGIN_AUTH ≠ 0 ∧ name ≠ [] then
        modify (·.setAuthPluginName (AuthPlugin.fromBytes (name.takeWhile (· ≠ 0))))) := by
  refine .ite List.drop_eq_nil_iff.symm (fun _ => .pure trivial) fun h => ?_
  have h := Nat.le_of_not_le h
  refine .step (add_small hd h (by decide)) (.bind .get fun c _ hc => ?_)
  obtain ⟨rfl, -⟩ := hc
  have hne : i + 1 < data.length ↔ (data.drop i).drop 1 ≠ [] := by
    rw [List.drop_drop, ne_eq, List.drop_eq_nil_iff, Nat.not_le]
  refine .ite (and_congr_right fun _ => hne) (fun h => ?_) fun _ => .pure trivial
  have hi := h.right
  refine .step (sliceFrom_eq hi.le) ?_
  rw [List.drop_drop]
  cases hf : (data.drop (i + 1)).findIdx? (· = 0)
  case none   =>
    rw [(findIdx?_none hf).right]
    exact .step (sliceFrom_eq hi.le) (.modify fun _ hc => ⟨hc.1⟩)
  case some p =>
    have ⟨hp, _, ht, _⟩ := findIdx?_some hf
    rw [List.length_drop] at hp
    have hu : isizeMax ≤ usizeMax := by decide
    rw [ht]
    refine .step (add_eq (by omega)) (.step (slice_add_eq data (i + 1) p (by omega)) ?_)
    exact .modify fun _ hc => ⟨hc.1⟩

end Greeting

theorem getServerInformation_sound : Sound Connection.Fits (fun _ _ => True) getServerInformation
    Connection.getServerInformation := by
  refine .bind readPacket_sound fun packet _ h => ?_
  obtain ⟨rfl, hp⟩ := h
  have hd := hp.data
  generalize packet.data = data at hd
  obtain _ | ⟨version, rest⟩ := data
  · exact .throw _
  · refine .step rfl (.bind (.modify fun _ hc => ⟨hc.1⟩) fun _ _ _ => ?_)
    refine .step rfl (.guard ?_ fun _ => ?_)
    · simp
    refine .step rfl ?_
    change Sound _ _ (match rest.findIdx? (· = 0) with | none => _ | some p => _) _
    cases h : rest.findIdx? (· = 0)
    case none   => exact .refuse (findIdx?_none h).left
    case some p =>
      have ⟨hp, h₀, ht, hdrop⟩ := findIdx?_some h
      refine .pass (not_not_intro h₀) ?_
      have hu : isizeMax + 256 ≤ usizeMax := by decide
      rw [ht, hdrop, List.drop_drop]
      have hrest : rest.drop (p + 1) = (version :: rest).drop (p + 2) := rfl
      rw [hrest]
      have hl : (version :: rest).length = rest.length + 1 := rfl
      refine .step (add_eq (by omega)) (.step (slice_add_eq _ 1 p (by omega)) ?_)
      refine .bind (.modify fun _ hc => ⟨hc.1⟩) fun _ _ _ => ?_
      have hi : p + 2 ≤ (version :: rest).length := by omega
      have ha : add usizeMax (0 + 1 + p) 1 = .ok (p + 2) := by
        rw [add_eq (by omega)]
        exact congrArg _ (by omega)
      refine .step ha ?_
      generalize p + 2 = i at hi
      generalize version :: rest = data at hd hi
      refine field_sound hd hi (by decide) fun h => ?_
      refine .step (indices_eq h (by omega)) (.bind (.modify fun _ hc => ⟨hc.1⟩) fun _ _ _ => ?_)
      refine .step (add_small hd hi (by decide)) ?_
      rw [List.drop_drop]
      clear hi
      generalize i + 4 = i at h
      refine field_sound hd h (by decide) fun h' => ?_
      refine .step (add_small hd h (by decide)) (.step (slice_add_eq _ i 8 (by omega)) ?_)
      refine .bind (.modify fun _ hc => ⟨hc.1⟩) fun _ _ _ => ?_
      refine .step (add_small hd h (by decide)) ?_
      rw [List.drop_drop]
      clear h
      generalize i + 9 = i at h'
      refine field_sound hd h' (by decide) fun h => ?_
      refine .step (indices_eq h (by omega)) (.bind (.modify fun _ hc => ⟨hc.1⟩) fun _ _ _ => ?_)
      refine .step (add_small hd h' (by decide)) ?_
      rw [List.drop_drop]
      clear h'
      generalize i + 2 = i at h
      refine .step (add_small hd h (by decide)) (.ite ?_ (fun h' => ?_) fun _ => ?_)
      · rw [List.length_drop]
        omega
      · refine .step (index_getD 0 (by omega)) ?_
        refine .step (add_small hd h (by decide)) (.step (indices_eq (by omega) (by omega)) ?_)
        refine .step (add_small hd h (by decide)) (.step (indices_eq (by omega) (by omega)) ?_)
        refine .step (add_small hd h (by decide)) (.step (index_getD 0 (by omega)) ?_)
        refine .step (add_small hd h (by decide)) ?_
        simp only [getD_drop, List.drop_drop, Nat.add_zero]
        have hs := saltLen_le (data.getD (i + 5) 0)
        generalize max ((data.getD (i + 5) 0).toNat - 9) 12 = saltLen at hs
        refine .bind (.modify fun _ hc => ⟨hc.1⟩) fun _ _ _ => ?_
        refine field_sound hd h' (by decide) fun h => ?_
        refine .step (add_small hd h' (by decide)) (.step (add_small hd h hs) (.ite ?_ (fun hc => ?_) fun _ => ?_))
        · rw [List.length_drop]
          omega
        · refine .step (add_small hd h hs) (.step (slice_add_eq _ _ saltLen hc) ?_)
          refine .bind (.modify fun _ hc => ⟨hc.1⟩) fun _ _ _ => .step (add_small hd h hs) ?_
          exact readAuthPluginName_sound hd _
        · exact readAuthPluginName_sound hd _
      · refine .step (add_small hd h (by decide)) ?_
        rw [List.drop_drop]
        exact readAuthPluginName_sound hd _

end Runtime
end MySQL
