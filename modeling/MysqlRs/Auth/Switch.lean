import MysqlRs.Auth.Opening

namespace MySQL

namespace Connection

open MysqlPacket
open PacketStream (plainPackets)

-- The plugins that have a response to the greeting.
def respondingPlugins : List AuthPlugin :=
  [.mysqlNativePassword, .cachingSha2Password, .sha256Password, .mysqlClearPassword, .clientEd25519]

-- What the server sends to have the client use another plugin. The nonce ends with a NUL of its own.
def authSwitchRequest (plugin : AuthPlugin) (nonce : Bytes) : Bytes :=
  0xFE :: (plugin.asBytes ++ 0 :: (nonce ++ [0]))

variable {c : Connection} {packet : MysqlPacket} {nonce : Bytes}

theorem trimNul_concat (nonce : Bytes) : trimNul (nonce ++ [0]) = nonce := by
  rw [trimNul, List.getLast?_concat, if_pos rfl, List.dropLast_concat]

theorem fromBytes_asBytes_of_responding {plugin : AuthPlugin} (h : plugin ∈ respondingPlugins) :
    AuthPlugin.fromBytes plugin.asBytes = plugin ∧ 0 ∉ plugin.asBytes ∧ 8 ≤ plugin.asBytes.length := by
  revert plugin
  decide

variable [Host]

-- A switch and the greeting lead to the same response, except with a plugin that has none after a switch.
theorem switchReply_response (nonce : Bytes) (h : c.authPluginName ∈ respondingPlugins)
    (he : c.authPluginName ≠ .clientEd25519) :
    ∃ salt phase, switchReply c nonce = (c.setSalt salt,
      .send (c.authPluginName.response c.options.password nonce c.secure) phase) := by
  rw [switchReply]
  cases hn : c.authPluginName
  case mysqlNativePassword | cachingSha2Password | mysqlClearPassword => exact ⟨c.salt, .initial, rfl⟩
  case sha256Password =>
    rw [sha256Answer, AuthPlugin.response]
    split_ifs
    · exact ⟨nonce, .initial, rfl⟩
    · exact ⟨nonce, .initial, rfl⟩
    · exact ⟨nonce, .sha256Password, rfl⟩
  case clientEd25519 => exact absurd hn he
  all_goals exact absurd (hn ▸ h) (by simp [respondingPlugins])

theorem switchReply_clientEd25519 (nonce : Bytes) (h : c.authPluginName = .clientEd25519) :
    ∃ e, switchReply c nonce = (c, .fail e) := by
  rw [switchReply, h]
  exact ⟨_, rfl⟩

variable [Libraries] [Crypto]

-- The payload is all that gets queued.
def Queues (operation : Proc Error Connection AuthState) (payload : Bytes) (c : Connection) : Prop :=
  ∃ c', operation c = .ok .send c' ∧
    c'.packetStream.sendQueue =
      c.packetStream.sendQueue ++ [(plainPackets c.packetStream.nextSeqId payload).1]

theorem processAuthSwitch_response_iff (h : c.authPluginName ∈ respondingPlugins)
    (hp : c.packetStream.compressed = false) (hd : packet.data.drop packet.position = nonce ++ [0]) :
    Queues (processAuthSwitch packet)
      (makeAuthResponse c.authPluginName c.options.password nonce c.secure) c ↔
        c.authPluginName ≠ .clientEd25519 := by
  have hx := processAuthSwitch_eq c packet
  rw [hd, trimNul_concat] at hx
  constructor
  case mp =>
    intro ⟨c', hc, _⟩ hn
    have ⟨e, hr⟩ := switchReply_clientEd25519 nonce hn
    rw [hx, hr] at hc
    exact nomatch hc
  case mpr =>
    intro hn
    have ⟨salt, phase, hr⟩ := switchReply_response nonce h hn
    refine ⟨(c.setSalt salt).sent _ phase, ?_, rfl⟩
    rw [hx, hr, perform, setSalt_options, AuthPlugin.response_data]
    exact sendAuthData_plain (c := c.setSalt salt) hp _ phase

-- The request is what leads there.
theorem processAuthInitial_switch (c : Connection) (nonce : Bytes) {plugin : AuthPlugin} (h : plugin ∈ respondingPlugins) :
    ∃ packet, packet.data.drop packet.position = nonce ++ [0] ∧
      processAuthInitial (.new (authSwitchRequest plugin nonce)) c =
        processAuthSwitch packet (c.setAuthPluginName plugin) := by
  have ⟨hf, h₀, hl⟩ := fromBytes_asBytes_of_responding h
  have hs : (MysqlPacket.new (authSwitchRequest plugin nonce)).isAuthSwitchRequest := by
    refine decide_eq_true ⟨rfl, ?_⟩
    simp only [new_data, authSwitchRequest, List.length_cons, List.length_append]
    omega
  have hm : 0 ∈ plugin.asBytes ++ 0 :: (nonce ++ [0]) := by simp
  have ht : (plugin.asBytes ++ 0 :: (nonce ++ [0])).takeWhile (· ≠ 0) = plugin.asBytes := by
    have hp : ∀ b ∈ plugin.asBytes, decide (b ≠ 0) := fun b hb => decide_eq_true fun hz => h₀ (hz ▸ hb)
    rw [List.takeWhile_append_of_pos hp]
    simp
  have hr := readPluginName_run 0xFE (plugin.asBytes ++ 0 :: (nonce ++ [0]))
  rw [if_pos hm, ht] at hr
  refine ⟨⟨1 + plugin.asBytes.length + 1, authSwitchRequest plugin nonce⟩, ?_, ?_⟩
  · simp [authSwitchRequest, Nat.add_comm 1, List.drop_append]
  · rw [processAuthInitial, if_pos hs]
    simp only [authSwitchRequest, hr, Proc.ofExcept_ok, Proc.bind_apply, Proc.pure_apply, Outcome.bind_ok,
      Proc.modify_apply, Option.getD_some, hf]

end Connection

section Examples

open Connection

attribute [local instance] Libraries.utf8Only Crypto.transparent Host.initProcess

theorem processAuthSwitch_native_response :
    let c := fresh plainOptions ⟨255, "utf8mb4", true⟩
    Queues (processAuthSwitch ⟨1, 0xFE :: (greetingSalt ++ [0])⟩)
      (makeAuthResponse .mysqlNativePassword plainOptions.password greetingSalt false) c ↔
        AuthPlugin.mysqlNativePassword ≠ .clientEd25519 :=
  processAuthSwitch_response_iff (c := fresh plainOptions ⟨255, "utf8mb4", true⟩) (.head _) rfl rfl

-- A server that asks for another plugin, and then has the client switch to client_ed25519.
theorem processAuthSwitch_clientEd25519 :
    ∃ c₀ c packet, Greeted plainOptions sha256Greeting c₀ ∧ Began c₀ c false ∧
      packet.data.drop packet.position = greetingSalt ++ [0] ∧
      processAuthInitial (.new (authSwitchRequest .clientEd25519 greetingSalt)) c =
        processAuthSwitch packet (c.setAuthPluginName .clientEd25519) ∧
      ¬Queues (processAuthSwitch packet)
        (makeAuthResponse .clientEd25519 plainOptions.password greetingSalt c.secure)
        (c.setAuthPluginName .clientEd25519) := by
  have ⟨c₀, c, hg, hb, _⟩ := sha256Session
  have h : AuthPlugin.clientEd25519 ∈ respondingPlugins := by decide
  have ⟨packet, hd, hs⟩ := processAuthInitial_switch c greetingSalt h
  refine ⟨c₀, c, packet, hg, hb, hd, hs, ?_⟩
  intro ⟨c', hc, _⟩
  have ⟨e, hr⟩ := switchReply_clientEd25519 (c := c.setAuthPluginName .clientEd25519)
    (trimNul (packet.data.drop packet.position)) rfl
  rw [processAuthSwitch_eq, hr] at hc
  exact nomatch hc

end Examples
end MySQL
