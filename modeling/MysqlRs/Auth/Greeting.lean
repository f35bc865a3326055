import MysqlRs.Auth.Opening
import MysqlRs.Core.Utf8

namespace MySQL

open Client

-- What a server of protocol 10 introduces itself with. The second part of the salt is kept without the NUL
-- that it ends with.
structure Greeting where
  version : Text
  threadId : UInt32
  saltHead : Bytes
  capabilities : UInt32
  language : UInt8
  status : UInt16
  authDataLength : UInt8
  reserved : Bytes
  saltTail : Bytes
  plugin : Bytes
  version_nul : '\x00' ∉ version
  saltHead_length : saltHead.length = 8
  reserved_length : reserved.length = 10
  saltTail_length : saltTail.length + 1 = max 13 (authDataLength.toNat - 8)
  plugin_ne : plugin ≠ []
  plugin_nul : 0 ∉ plugin
  secureConnection : capabilities &&& SECURE_CONNECTION ≠ 0
  pluginAuth : capabilities &&& PLUGIN_AUTH ≠ 0

namespace Greeting

variable (g : Greeting)

-- The name of the plugin, with or without its NUL.
def pluginPart (terminated : Bool) : Bytes :=
  g.plugin ++ if terminated then [0] else []

def saltPart (terminated : Bool) : Bytes :=
  g.saltTail ++ 0 :: g.pluginPart terminated

def flagsPart (terminated : Bool) : Bytes :=
  g.language :: (LittleEndian.encode 2 g.status.toNat ++
    (LittleEndian.encode 2 (g.capabilities.toNat / 2 ^ 16) ++
      g.authDataLength :: (g.reserved ++ g.saltPart terminated)))

def encode (terminated : Bool) : Bytes :=
  10 :: (g.version.asBytes ++ 0 :: (LittleEndian.encode 4 g.threadId.toNat ++ (g.saltHead ++
    0 :: (LittleEndian.encode 2 g.capabilities.toNat ++ g.flagsPart terminated))))

section Parts

variable (terminated : Bool)

theorem flagsPart_drop : (g.flagsPart terminated).drop 6 = g.reserved ++ g.saltPart terminated :=
  rfl

theorem flagsPart_length : 6 ≤ (g.flagsPart terminated).length := by
  simp only [flagsPart, List.length_cons, List.length_append, LittleEndian.encode_length]
  omega

theorem flagsPart_status : ((g.flagsPart terminated).drop 1).take 2 = LittleEndian.encode 2 g.status.toNat :=
  rfl

theorem flagsPart_high : ((g.flagsPart terminated).drop 3).take 2 =
    LittleEndian.encode 2 (g.capabilities.toNat / 2 ^ 16) :=
  rfl

-- The length that the parser takes the second part of the salt to have.
theorem saltTail_length_eq : max (g.authDataLength.toNat - 9) 12 = g.saltTail.length := by
  have h := g.saltTail_length
  omega

theorem pluginPart_ne : g.pluginPart terminated ≠ [] :=
  List.append_ne_nil_of_left_ne_nil g.plugin_ne _

theorem pluginPart_takeWhile : (g.pluginPart terminated).takeWhile (· ≠ 0) = g.plugin := by
  have hp : ∀ b ∈ g.plugin, decide (b ≠ 0) := fun b hb => decide_eq_true fun hz => g.plugin_nul (hz ▸ hb)
  rw [pluginPart, List.takeWhile_append_of_pos hp]
  cases terminated <;> simp

theorem head_take (rest : Bytes) : (g.saltHead ++ 0 :: rest).take 8 = g.saltHead :=
  List.take_left' g.saltHead_length

theorem head_drop (rest : Bytes) : (g.saltHead ++ 0 :: rest).drop 9 = rest := by
  rw [← List.drop_drop (i := 1) (j := 8), List.drop_left' g.saltHead_length, List.drop_one, List.tail_cons]

end Parts

-- What a connection remembers of the greeting.
structure Recovered (c : Connection) : Prop where
  protocolVersion_eq : c.protocolVersion = 10
  serverVersion_eq : c.serverVersion = g.version
  serverThreadId_eq : c.serverThreadId = g.threadId
  serverCapabilities_eq : c.serverCapabilities = g.capabilities
  serverLanguage_eq : c.serverLanguage = g.language
  serverStatus_eq : c.serverStatus = g.status
  salt_eq : c.salt = g.saltHead ++ g.saltTail
  authPluginName_eq : c.authPluginName = AuthPlugin.fromBytes g.plugin
  name_eq (name : Text) : g.plugin = name.asBytes → c.authPluginName.asBytes = g.plugin

end Greeting

namespace AuthPlugin

-- The name of a plugin comes back, if it is text at all.
theorem asBytes_fromBytes (name : Text) : (fromBytes name.asBytes).asBytes = name.asBytes := by
  rw [fromBytes]
  split_ifs
  case neg => exact congrArg Text.asBytes (Text.fromUtf8Lossy_asBytes name)
  all_goals simp only [asBytes, *]

theorem fromBytes_nul {name : Bytes} (h : 0 ∉ name) : 0 ∉ (fromBytes name).asBytes := by
  rw [fromBytes]
  split_ifs
  case neg => exact fun h₀ => Text.nul_not_mem_fromUtf8Lossy h (Text.zero_mem_asBytes.mp h₀)
  all_goals
    rw [asBytes]
    decide

end AuthPlugin

-- A number by its halves.
theorem halves_or (n : UInt32) :
    UInt32.ofNat (n.toNat % 2 ^ 16) ||| UInt32.ofNat (n.toNat / 2 ^ 16 % 2 ^ 16) <<< 16 = n := by
  have hn := n.toNat_lt
  have hl : (UInt32.ofNat (n.toNat % 2 ^ 16)).toNat = n.toNat % 2 ^ 16 :=
    UInt32.toNat_ofNat_of_lt' (by simp only [UInt32.size]; omega)
  have hh : (UInt32.ofNat (n.toNat / 2 ^ 16 % 2 ^ 16)).toNat = n.toNat / 2 ^ 16 :=
    (UInt32.toNat_ofNat_of_lt' (by simp only [UInt32.size]; omega)).trans (by omega)
  have hs : (n.toNat / 2 ^ 16) <<< 16 % 2 ^ 32 = 2 ^ 16 * (n.toNat / 2 ^ 16) := by
    rw [Nat.shiftLeft_eq]
    omega
  rw [← UInt32.toNat_inj, UInt32.toNat_or, UInt32.toNat_shiftLeft, hl, hh]
  change n.toNat % 2 ^ 16 ||| (n.toNat / 2 ^ 16) <<< 16 % 2 ^ 32 = n.toNat
  rw [hs, Nat.or_comm, ← Nat.two_pow_add_eq_or_of_lt (Nat.mod_lt _ (by decide))]
  omega

namespace Connection

variable {c : Connection} {g : Greeting}

theorem version_split (version rest : Bytes) (h : 0 ∉ version) :
    (version ++ 0 :: rest).takeWhile (· ≠ 0) = version ∧
      ((version ++ 0 :: rest).dropWhile (· ≠ 0)).drop 1 = rest := by
  have hp : ∀ b ∈ version, decide (b ≠ 0) := fun b hb => decide_eq_true fun hz => h (hz ▸ hb)
  rw [List.takeWhile_append_of_pos hp, List.dropWhile_append_of_pos hp]
  simp

theorem getServerInformation_encode (g : Greeting) (terminated : Bool) {queue : List MysqlPacket}
    (h : c.packetStream.recvQueue = .new (g.encode terminated) :: queue) :
    getServerInformation.Ends c fun _ c' =>
      g.Recovered c' ∧ c'.packetStream = { c.packetStream with recvQueue := queue } := by
  have ⟨ht, hd⟩ := version_split g.version.asBytes
    (LittleEndian.encode 4 g.threadId.toNat ++ (g.saltHead ++
      0 :: (LittleEndian.encode 2 g.capabilities.toNat ++ g.flagsPart terminated)))
    (fun h => g.version_nul (Text.zero_mem_asBytes.mp h))
  refine .bind (readPacket_cons h) ?_
  rw [Greeting.encode, MysqlPacket.new_data]
  refine .modify_bind (.pass (by simp) (.pass (by simp) (.modify_bind ?_)))
  simp only [ht, hd]
  refine .pass (by simp) (.modify_bind ?_)
  simp only [LittleEndian.take_encode_append, LittleEndian.drop_encode_append]
  refine .pass ?_ (.modify_bind ?_)
  · simp only [List.length_append, List.length_cons, g.saltHead_length]
    omega
  simp only [g.head_take, g.head_drop, LittleEndian.take_encode_append, LittleEndian.drop_encode_append]
  refine .pass ?_ (.modify_bind (.take (g.flagsPart_length terminated) (.modify_bind ?_)))
  · rw [List.length_append, LittleEndian.encode_length]
    omega
  have hr : (g.reserved ++ g.saltPart terminated).drop 10 = g.saltPart terminated :=
    List.drop_left' g.reserved_length
  have hl : ((g.flagsPart terminated).getD 5 0).toNat = g.authDataLength.toNat := rfl
  simp only [g.flagsPart_drop, hr, hl, g.saltTail_length_eq]
  refine .pass (by simp [g.reserved_length]) (.take (by simp [Greeting.saltPart]) (.modify_bind ?_))
  simp only [Greeting.saltPart, List.take_left, List.drop_left]
  refine .bind rfl (.pass (List.cons_ne_nil _ _) (.bind rfl ?_))
  have hc := halves_or g.capabilities
  simp only [g.flagsPart_status, g.flagsPart_high, LittleEndian.decode_encode, Nat.reducePow] at hc ⊢
  have hn := congrArg AuthPlugin.fromBytes (g.pluginPart_takeWhile terminated)
  refine .take ⟨?_, g.pluginPart_ne terminated⟩ ⟨(), _, rfl, ?_, rfl⟩
  · have hp := g.pluginAuth
    rw [← hc] at hp
    exact hp
  · exact {
      protocolVersion_eq := rfl
      serverVersion_eq := Text.fromUtf8Lossy_asBytes g.version
      serverThreadId_eq := by simp
      serverCapabilities_eq := hc
      serverLanguage_eq := rfl
      serverStatus_eq := by simp
      salt_eq := rfl
      authPluginName_eq := hn
      name_eq := fun name ht =>
        (congrArg AuthPlugin.asBytes hn).trans (by rw [ht, AuthPlugin.asBytes_fromBytes])
    }

end Connection

section Examples

open Connection

def nativeGreeting : Greeting where
  version := ['8', 'é']
  threadId := 7
  saltHead := List.replicate 8 65
  capabilities := PLUGIN_AUTH ||| SECURE_CONNECTION
  language := 45
  status := 2
  authDataLength := 21
  reserved := List.replicate 10 0
  saltTail := List.replicate 12 66
  plugin := AuthPlugin.mysqlNativePassword.asBytes
  version_nul := by decide
  saltHead_length := rfl
  reserved_length := rfl
  saltTail_length := rfl
  plugin_ne := by decide
  plugin_nul := by decide
  secureConnection := by decide
  pluginAuth := by decide

theorem getServerInformation_nativeGreeting :
    let c := (fresh plainOptions ⟨255, "utf8mb4", true⟩).deliver (.alone 1 (nativeGreeting.encode false))
    getServerInformation.Ends c fun _ c' =>
      nativeGreeting.Recovered c' ∧ c'.packetStream = { c.packetStream with recvQueue := [] } :=
  getServerInformation_encode nativeGreeting false rfl

end Examples
end MySQL
