import Mathlib.Data.List.TakeWhile
import MysqlRs.Auth.Greeting
import MysqlRs.Library.Reading

namespace MySQL

open Client

-- What a server finds in the response to its greeting.
structure HandshakeResponse where
  clientFlags : UInt32
  user : Bytes
  authResponse : Bytes
  database : Option Bytes
  plugin : Option Bytes
  attrs : Option (List (Bytes × Bytes))

namespace HandshakeResponse

open Reading

def readLenenc : Reading UInt8 Nat := do
  let b ← next
  if b < 0xFB then return b.toNat
  else if b = 0xFC then number 2
  else if b = 0xFD then number 3
  else if b = 0xFE then number 8
  else failure

def readLenencString : Reading UInt8 Bytes := do
  take (← readLenenc)

def readAttr : Reading UInt8 (Bytes × Bytes) := do
  let key ← readLenencString
  let value ← readLenencString
  return (key, value)

def readAttrs : Reading UInt8 (List (Bytes × Bytes)) := do
  let n ← readLenenc
  within n (exhaust readAttr n)

-- A field that is there only if a flag is set.
def flagged {α : Type} (flags flag : UInt32) (r : Reading UInt8 α) : Reading UInt8 (Option α) :=
  if flags &&& flag ≠ 0 then some <$> r else pure none

def readAuthResponse (flags : UInt32) : Reading UInt8 Bytes :=
  if flags &&& PLUGIN_AUTH_LENENC_CLIENT_DATA ≠ 0 then readLenencString
  else if flags &&& SECURE_CONNECTION ≠ 0 then do
    let n ← next
    take n.toNat
  else upTo 0

def readFields (clientFlags flags : UInt32) : Reading UInt8 HandshakeResponse := do
  let user ← upTo 0
  let authResponse ← readAuthResponse flags
  let database ← flagged flags CONNECT_WITH_DB (upTo 0)
  let plugin ← flagged flags PLUGIN_AUTH (upTo 0)
  let attrs ← flagged flags CONNECT_ATTRS readAttrs
  return { clientFlags, user, authResponse, database, plugin, attrs }

-- The longest packet, the charset, and what is reserved are of no interest here. A server reads the rest by
-- the flags that both sides have.
def parse (capabilities : UInt32) : Reading UInt8 HandshakeResponse := do
  let clientFlags := UInt32.ofNat (← number 4)
  let _ ← take 28
  readFields clientFlags (clientFlags &&& capabilities)

theorem reads_lenenc {n : Nat} (h : n < 2 ^ 64) : readLenenc.Reads (lenencInt n) n := by
  have head {b : UInt8} {bs : Bytes} {k : UInt8 → Reading UInt8 Nat} (hk : (k b).Reads bs n) :
      (next >>= k).Reads (b :: bs) n :=
    (Reads.next b).bind hk
  rw [lenencInt, readLenenc]
  split_ifs with h₁ h₂ h₃
  · have hb : (UInt8.ofNat n).toNat = n := Text.ofNat_toNat_of_lt (by omega)
    refine head ?_
    rw [if_pos (UInt8.lt_iff_toNat_lt.mpr (hb.symm ▸ h₁)), hb]
    exact .pure n
  · refine head ?_
    rw [if_neg (by decide), if_pos rfl]
    exact .number _ h₂
  · refine head ?_
    rw [if_neg (by decide), if_neg (by decide), if_pos rfl]
    exact .number _ h₃
  · refine head ?_
    rw [if_neg (by decide), if_neg (by decide), if_neg (by decide), if_pos rfl]
    exact .number _ h

theorem reads_lenencString {bytes : Bytes} (h : bytes.length < 2 ^ 64) :
    readLenencString.Reads (Connection.lenencBytes bytes) bytes :=
  (reads_lenenc h).bind (.take bytes)

theorem reads_flagged {α : Type} (flags flag : UInt32) {r : Reading UInt8 α} {bytes : Bytes} {a : α}
    (h : flags &&& flag ≠ 0 → r.Reads bytes a) :
    (flagged flags flag r).Reads (if flags &&& flag ≠ 0 then bytes else [])
      (if flags &&& flag ≠ 0 then some a else none) := by
  rw [flagged]
  split_ifs with hf
  · exact (h hf).map some
  · exact .pure none

def attrBytes (attr : Text × Text) : Bytes × Bytes :=
  (attr.1.asBytes, attr.2.asBytes)

def encodeAttr (attr : Bytes × Bytes) : Bytes :=
  Connection.lenencBytes attr.1 ++ Connection.lenencBytes attr.2

theorem reads_attr {attr : Bytes × Bytes} (h : (encodeAttr attr).length < 2 ^ 64) :
    readAttr.Reads (encodeAttr attr) attr := by
  have hl : attr.1.length + attr.2.length ≤ (encodeAttr attr).length := by
    simp only [encodeAttr, Connection.lenencBytes, List.length_append]
    omega
  have h₁ : attr.1.length < 2 ^ 64 := by omega
  have h₂ : attr.2.length < 2 ^ 64 := by omega
  exact (reads_lenencString h₁).bind ((reads_lenencString h₂).map (attr.1, ·))

theorem encodeAttr_ne (attr : Bytes × Bytes) : encodeAttr attr ≠ [] := by
  refine List.append_ne_nil_of_left_ne_nil (List.append_ne_nil_of_left_ne_nil ?_ _) _
  rw [lenencInt]
  split_ifs
  all_goals exact List.cons_ne_nil _ _

theorem length_le_flatMap {attrs : List (Bytes × Bytes)} {attr : Bytes × Bytes} (h : attr ∈ attrs) :
    (encodeAttr attr).length ≤ (attrs.flatMap encodeAttr).length := by
  obtain ⟨xs, ys, rfl⟩ := List.append_of_mem h
  simp only [List.flatMap_append, List.flatMap_cons, List.length_append]
  omega

theorem attrs_length_le (attrs : List (Bytes × Bytes)) :
    attrs.length ≤ (attrs.flatMap encodeAttr).length := by
  induction attrs
  case nil => exact Nat.le_refl _
  case cons attr attrs ih =>
    have h := List.length_pos_of_ne_nil (encodeAttr_ne attr)
    rw [List.flatMap_cons, List.length_append, List.length_cons]
    omega

theorem reads_attrs {attrs : List (Bytes × Bytes)} (h : (attrs.flatMap encodeAttr).length < 2 ^ 64) :
    readAttrs.Reads (Connection.lenencBytes (attrs.flatMap encodeAttr)) attrs := by
  refine (reads_lenenc h).bind (.within (exhaust_flatMap (fun attr ha => reads_attr ?_)
    (fun attr _ => encodeAttr_ne attr) (attrs_length_le attrs)))
  exact Nat.lt_of_le_of_lt (length_le_flatMap ha) h

end HandshakeResponse

namespace Connection

open PacketStream (plainPackets)

-- What a connection announces, by its options.
def announcedFlags (options : ConnectOptions) : UInt32 :=
  CAPABILITIES |||
    (if options.database.isSome then CONNECT_WITH_DB else 0) |||
    (if options.localInfile then LOCAL_FILES else 0) |||
    (if options.compress then COMPRESS else 0)

-- What is known of a connection once it has been greeted.
structure Announces (c : Connection) : Prop where
  clientFlag_eq : c.clientFlag = announcedFlags c.options
  plugin_nul : 0 ∉ c.authPluginName.asBytes

theorem getServerInformation_announces : getServerInformation.Preserves Announces := by
  refine .bind (fun c p c' h hc => ?_) fun packet => ?_
  · have ⟨ps, _, hs⟩ := readPacket_ok h
    exact hs ▸ ⟨hc.clientFlag_eq, hc.plugin_nul⟩
  cases packet.data
  case nil => exact .throw _
  case cons version data =>
    refine .bind (.modify fun _ h => ⟨h.clientFlag_eq, h.plugin_nul⟩) fun _ => ?_
    refine .guard _ fun _ => .guard _ fun _ => .bind (.modify fun _ h => ⟨h.clientFlag_eq, h.plugin_nul⟩) fun _ => ?_
    refine .guard _ fun _ => .bind (.modify fun _ h => ⟨h.clientFlag_eq, h.plugin_nul⟩) fun _ => ?_
    refine .guard _ fun _ => .bind (.modify fun _ h => ⟨h.clientFlag_eq, h.plugin_nul⟩) fun _ => ?_
    refine .guard _ fun _ => .bind (.modify fun _ h => ⟨h.clientFlag_eq, h.plugin_nul⟩) fun _ => ?_
    have name (data : Bytes) : Proc.Preserves Announces (do
        if data = [] then return
        let name := data.drop 1
        if (← get).serverCapabilities &&& PLUGIN_AUTH ≠ 0 ∧ name ≠ [] then
          modify (·.setAuthPluginName (AuthPlugin.fromBytes (name.takeWhile (· ≠ 0)))) :
        Proc Error Connection Unit) := by
      refine .ite (.pure ()) (.bind .get fun _ => .ite (.modify fun c h => ⟨h.clientFlag_eq, ?_⟩) (.pure ()))
      exact AuthPlugin.fromBytes_nul fun h₀ => absurd (List.mem_takeWhile_imp h₀) (by decide)
    refine .ite ?_ (.bind (.pure _) name)
    refine .bind (.modify fun _ h => ⟨h.clientFlag_eq, h.plugin_nul⟩) fun _ => .guard _ fun _ => ?_
    exact .ite (.bind (.modify fun _ h => ⟨h.clientFlag_eq, h.plugin_nul⟩) fun _ => .bind (.pure _) name)
      (.bind (.pure _) name)

theorem Greeted.announces {options : ConnectOptions} {greeting : Bytes} {c : Connection}
    (h : Greeted options greeting c) : Announces c := by
  obtain ⟨c₀, _, hc, _, hi⟩ := h
  refine getServerInformation_announces hi ?_
  rw [connect] at hc
  cases hk : checkOptions options
  case error    =>
    rw [hk] at hc
    cases hc
  case ok chars =>
    rw [hk] at hc
    obtain rfl := Except.ok.inj hc
    have hn : 0 ∉ AuthPlugin.mysqlNativePassword.asBytes := by decide
    exact ⟨rfl, hn⟩

-- The upgrade to TLS is made before the response.
theorem Announces.secured {c : Connection} (h : Announces c) (charset : Charset) :
    Announces (c.tlsRequested charset).secured :=
  ⟨h.clientFlag_eq, h.plugin_nul⟩

theorem announcedFlags_and (options : ConnectOptions) (tls : Bool) :
    let flags := announcedFlags options ||| if tls then SSL else 0
    flags &&& PLUGIN_AUTH_LENENC_CLIENT_DATA = PLUGIN_AUTH_LENENC_CLIENT_DATA ∧
    flags &&& SECURE_CONNECTION = SECURE_CONNECTION ∧
    flags &&& PLUGIN_AUTH = PLUGIN_AUTH ∧ flags &&& CONNECT_ATTRS = CONNECT_ATTRS ∧
    flags &&& CONNECT_WITH_DB = if options.database.isSome then CONNECT_WITH_DB else 0 := by
  simp only [announcedFlags]
  cases options.database.isSome <;> cases options.localInfile <;> cases options.compress <;> cases tls <;>
    decide

-- A flag that the client announces is left to the server.
theorem and_flag {flags capabilities flag : UInt32} (h : flags &&& flag = flag) :
    flags &&& capabilities &&& flag = capabilities &&& flag := by
  rw [UInt32.and_comm flags, UInt32.and_assoc, h]

theorem and_flag_zero {flags capabilities flag : UInt32} (h : flags &&& flag = 0) :
    flags &&& capabilities &&& flag = 0 := by
  rw [UInt32.and_comm flags, UInt32.and_assoc, h, UInt32.and_zero]

section Parts

open HandshakeResponse

variable {c : Connection} {flags : UInt32}

-- The attributes, in the order in which they are named.
def attributes [Host] (c : Connection) : List (Text × Text) :=
  [("_client_name".toList, "mysql".toList), ("_client_version".toList, CARGO_PKG_VERSION),
    ("_pid".toList, (toString Host.processId).toList)] ++
  (c.options.programName.map ("program_name".toList, ·)).toList

theorem connectAttrs_eq [Host] (c : Connection) :
    c.connectAttrs = ((Host.order c.attributes).map attrBytes).flatMap encodeAttr := by
  rw [List.flatMap_map]
  rfl

-- The parts of what follows the response to the greeting.
def databasePart (c : Connection) : Bytes :=
  match c.options.database with
  | some db => if c.serverCapabilities &&& CONNECT_WITH_DB ≠ 0 then db.asBytes ++ [0] else []
  | none    => []

theorem authTail_eq [Host] (c : Connection) :
    c.authTail = c.databasePart ++
      (if c.serverCapabilities &&& PLUGIN_AUTH ≠ 0 then c.authPluginName.asBytes ++ [0] else []) ++
      (if c.serverCapabilities &&& CONNECT_ATTRS ≠ 0 then lenencBytes c.connectAttrs else []) :=
  rfl

theorem reads_authResponse {resp encoded : Bytes} (h : c.encodeAuthResponse resp = .ok encoded)
    (hs : c.serverCapabilities &&& PLUGIN_AUTH_LENENC_CLIENT_DATA ≠ 0 ∨
      c.serverCapabilities &&& SECURE_CONNECTION ≠ 0)
    (h₁ : flags &&& PLUGIN_AUTH_LENENC_CLIENT_DATA =
      c.serverCapabilities &&& PLUGIN_AUTH_LENENC_CLIENT_DATA)
    (h₂ : flags &&& SECURE_CONNECTION = c.serverCapabilities &&& SECURE_CONNECTION)
    (hr : resp.length ≤ usizeMax) : (readAuthResponse flags).Reads encoded resp := by
  rw [encodeAuthResponse] at h
  rw [readAuthResponse, h₁, h₂]
  split_ifs at h ⊢ with hl hc hn
  · exact Except.ok.inj h ▸ reads_lenencString (Nat.lt_succ_of_le hr)
  · have hb : (UInt8.ofNat resp.length).toNat = resp.length := Text.ofNat_toNat_of_lt (by omega)
    rw [← Except.ok.inj h]
    exact (Reading.Reads.next _).bind (hb.symm ▸ .take resp)
  · exact absurd hs (not_or.mpr ⟨hl, hc⟩)

theorem reads_database (flags : UInt32) (hd : ∀ db ∈ c.options.database, 0 ∉ db.asBytes)
    (h : ∀ db ∈ c.options.database, flags &&& CONNECT_WITH_DB = c.serverCapabilities &&& CONNECT_WITH_DB)
    (hn : c.options.database = none → flags &&& CONNECT_WITH_DB = 0) :
    (flagged flags CONNECT_WITH_DB (Reading.upTo 0)).Reads c.databasePart
      (if c.serverCapabilities &&& CONNECT_WITH_DB ≠ 0 then c.options.database.map Text.asBytes else none) := by
  rw [databasePart]
  cases hb : c.options.database
  case none =>
    have hf (h : flags &&& CONNECT_WITH_DB ≠ 0) : (Reading.upTo (0 : UInt8)).Reads [] [] := absurd (hn hb) h
    have hr := reads_flagged flags CONNECT_WITH_DB hf
    rw [if_neg (not_not.mpr (hn hb)), if_neg (not_not.mpr (hn hb))] at hr
    simpa using hr
  case some db =>
    have hr := reads_flagged flags CONNECT_WITH_DB fun _ => .upTo (hd db hb)
    rw [h db hb] at hr
    exact hr

end Parts

variable [Libraries] [Crypto] [Host] {c c' : Connection} {clientFlags : UInt32}

-- What the server is to find.
def expectedResponse (c : Connection) (clientFlags : UInt32) (attrs : List (Bytes × Bytes)) :
    HandshakeResponse where
  clientFlags := clientFlags
  user := c.options.user.asBytes
  authResponse := makeAuthResponse c.authPluginName c.options.password c.salt c.secure
  database :=
    if c.serverCapabilities &&& CONNECT_WITH_DB ≠ 0 then c.options.database.map Text.asBytes else none
  plugin := if c.serverCapabilities &&& PLUGIN_AUTH ≠ 0 then some c.authPluginName.asBytes else none
  attrs := if c.serverCapabilities &&& CONNECT_ATTRS ≠ 0 then some attrs else none

omit [Libraries] in
theorem handshakeResponse_ok {payload : Bytes}
    (h : c.handshakeResponse clientFlags c.firstCredential = .ok payload) :
    ∃ charset encoded,
      c.encodeAuthResponse (makeAuthResponse c.authPluginName c.options.password c.salt c.secure) =
        .ok encoded ∧
      payload =
        handshakeHead clientFlags charset ++ c.options.user.asBytes ++ [0] ++ encoded ++ c.authTail := by
  rw [handshakeResponse, firstCredential] at h
  cases hk : c.charsetInfo
  case error      =>
    rw [hk] at h
    cases h
  case ok charset =>
    simp only [hk, bind, Except.bind, AuthPlugin.response_data] at h
    cases he : c.encodeAuthResponse
      (makeAuthResponse c.authPluginName c.options.password c.salt c.secure)
    case error      =>
      rw [he] at h
      cases h
    case ok encoded =>
      rw [he] at h
      exact ⟨charset, encoded, rfl, (Except.ok.inj h).symm⟩

omit [Libraries] in
theorem handshakeResponse_parsed (ha : c.Announces) (tls : Bool)
    (hf : clientFlags = c.clientFlag ||| if tls then SSL else 0)
    (hs : c.serverCapabilities &&& PLUGIN_AUTH_LENENC_CLIENT_DATA ≠ 0 ∨
      c.serverCapabilities &&& SECURE_CONNECTION ≠ 0)
    (hu : 0 ∉ c.options.user.asBytes) (hd : ∀ db ∈ c.options.database, 0 ∉ db.asBytes)
    (hr : (makeAuthResponse c.authPluginName c.options.password c.salt c.secure).length ≤ usizeMax)
    (hl : c.connectAttrs.length ≤ usizeMax) {payload : Bytes}
    (h : c.handshakeResponse clientFlags c.firstCredential = .ok payload) :
    (HandshakeResponse.parse c.serverCapabilities).Reads payload
      (c.expectedResponse clientFlags ((Host.order c.attributes).map HandshakeResponse.attrBytes)) := by
  obtain ⟨charset, encoded, he, rfl⟩ := handshakeResponse_ok h
  have ⟨h₁, h₂, h₃, h₄, h₅⟩ := announcedFlags_and c.options tls
  rw [← ha.clientFlag_eq, ← hf] at h₁ h₂ h₃ h₄ h₅
  have hn : UInt32.ofNat clientFlags.toNat = clientFlags := UInt32.ofNat_toNat
  let middle := uint32 (UInt32.ofNat maxPacketLen) ++ [charset.id.toUInt8] ++ List.replicate 23 0
  have hm : middle.length = 28 := rfl
  have hdb := reads_database (clientFlags &&& c.serverCapabilities) hd
    (fun db hb => and_flag (h₅.trans (by rw [hb]; rfl)))
    (fun hb => and_flag_zero (h₅.trans (by rw [hb]; rfl)))
  have hplugin := HandshakeResponse.reads_flagged (clientFlags &&& c.serverCapabilities) PLUGIN_AUTH
    fun _ => .upTo ha.plugin_nul
  have hlen := Nat.lt_succ_of_le (connectAttrs_eq c ▸ hl)
  have hattrs := HandshakeResponse.reads_flagged (clientFlags &&& c.serverCapabilities) CONNECT_ATTRS
    fun _ => HandshakeResponse.reads_attrs hlen
  rw [and_flag h₃] at hplugin
  rw [and_flag h₄, ← connectAttrs_eq] at hattrs
  have hfields : (HandshakeResponse.readFields clientFlags (clientFlags &&& c.serverCapabilities)).Reads _
      (c.expectedResponse clientFlags ((Host.order c.attributes).map HandshakeResponse.attrBytes)) :=
    (Reading.Reads.upTo hu).bind ((reads_authResponse he hs (and_flag h₁) (and_flag h₂) hr).bind
      (hdb.bind (hplugin.bind (hattrs.bind (.pure _)))))
  have hrest : (do
      let _ ← Reading.take 28
      HandshakeResponse.readFields clientFlags (clientFlags &&& c.serverCapabilities)).Reads _ _ :=
    (hm ▸ Reading.Reads.take middle).bind hfields
  have hparse : (HandshakeResponse.parse c.serverCapabilities).Reads _ _ :=
    (Reading.Reads.number 4 clientFlags.toNat_lt).bind (hn.symm ▸ hrest)
  simpa [handshakeHead, authTail_eq, uint32, middle] using hparse

theorem writeAuthPacket_parsed (ha : c.Announces) (tls : Bool)
    (hf : clientFlags = c.clientFlag ||| if tls then SSL else 0)
    (hp : c.packetStream.compressed = false)
    (hs : c.serverCapabilities &&& PLUGIN_AUTH_LENENC_CLIENT_DATA ≠ 0 ∨
      c.serverCapabilities &&& SECURE_CONNECTION ≠ 0)
    (hu : 0 ∉ c.options.user.asBytes) (hd : ∀ db ∈ c.options.database, 0 ∉ db.asBytes)
    (hr : (makeAuthResponse c.authPluginName c.options.password c.salt c.secure).length ≤ usizeMax)
    (hl : c.connectAttrs.length ≤ usizeMax) (h : writeAuthPacket clientFlags c = .ok () c') :
    ∃ payload attrs,
      c'.packetStream.sendQueue =
        c.packetStream.sendQueue ++ [(plainPackets c.packetStream.nextSeqId payload).1] ∧
      attrs.Perm (c.attributes.map HandshakeResponse.attrBytes) ∧
      HandshakeResponse.parse c.serverCapabilities payload =
        some (c.expectedResponse clientFlags attrs, []) := by
  rw [writeAuthPacket_plain _ hp] at h
  split at h
  case h_2 => exact nomatch h
  case h_1 payload hok =>
    obtain ⟨_, rfl⟩ := Outcome.ok.inj h
    have hparsed := handshakeResponse_parsed ha tls hf hs hu hd hr hl hok
    exact ⟨payload, _, rfl, (Host.order_perm _).map _, hparsed.all⟩

-- Whatever the greeting, the credentials that have been queued are read as they were meant.
theorem Began.parsed {options : ConnectOptions} {greeting : Bytes} {secure : Bool}
    (hg : Greeted options greeting c) (hb : Began c c' secure)
    (hs : c'.serverCapabilities &&& PLUGIN_AUTH_LENENC_CLIENT_DATA ≠ 0 ∨
      c'.serverCapabilities &&& SECURE_CONNECTION ≠ 0)
    (hu : 0 ∉ options.user.asBytes) (hd : ∀ db ∈ options.database, 0 ∉ db.asBytes)
    (hr : (makeAuthResponse c'.authPluginName c'.options.password c'.salt c'.secure).length ≤ usizeMax)
    (hl : c'.connectAttrs.length ≤ usizeMax) :
    ∃ payload attrs queue seq,
      c'.packetStream.sendQueue = queue ++ [(plainPackets seq payload).1] ∧
      attrs.Perm (c'.attributes.map HandshakeResponse.attrBytes) ∧
      HandshakeResponse.parse c'.serverCapabilities payload =
        some (c'.expectedResponse (c'.clientFlag ||| if secure then SSL else 0) attrs, []) := by
  obtain ⟨c₁, payload, rfl, hok, hc⟩ := hb.responded hg.plain
  obtain ⟨ha, hflag, hoptions⟩ :
      Announces c₁ ∧ c.clientFlag = c₁.clientFlag ∧ c₁.options = c.options := by
    obtain ⟨_, rfl⟩ | ⟨charset, _, rfl⟩ := hc
    · exact ⟨hg.announces, rfl, rfl⟩
    · exact ⟨hg.announces.secured charset, rfl, rfl⟩
  rw [← hg.options_eq, ← hoptions] at hu hd
  rw [hflag] at hok
  have hparsed := handshakeResponse_parsed ha secure rfl hs hu hd hr hl hok
  exact ⟨payload, _, _, _, rfl, (Host.order_perm _).map _, hparsed.all⟩

end Connection

section Examples

open Connection

attribute [local instance] Libraries.utf8Only Crypto.transparent Host.initProcess

def namedOptions : ConnectOptions where
  user := ['u']
  password := [112]
  database := some ['d', 'b']
  programName := some ['p']

-- The greeting of a server that asks for mysql_clear_password, and knows TLS, databases and attributes.
def clearGreeting : Bytes :=
  [10, 56, 0, 1, 0, 0, 0] ++ greetingSalt.take 8 ++ [0, 8, 0x88, 45, 2, 0, 0x38, 0, 21] ++
    List.replicate 10 0 ++ greetingSalt.drop 8 ++ [0] ++ Text.asBytes "mysql_clear_password".toList ++ [0]

theorem writeAuthPacket_parsed_clear :
    ∃ c₀ charset c' payload attrs, Greeted namedOptions clearGreeting c₀ ∧
      let c := (c₀.tlsRequested charset).secured
      writeAuthPacket (c.clientFlag ||| SSL) c = .ok () c' ∧
      c'.packetStream.sendQueue =
        c.packetStream.sendQueue ++ [(PacketStream.plainPackets c.packetStream.nextSeqId payload).1] ∧
      attrs.Perm (c.attributes.map HandshakeResponse.attrBytes) ∧
      HandshakeResponse.parse c.serverCapabilities payload =
        some (c.expectedResponse (c.clientFlag ||| SSL) attrs, []) := by
  have ⟨c₀, charset, c', hg, hs, hu, hd, hr, hl, hw⟩ : ∃ c₀ charset c',
      Greeted namedOptions clearGreeting c₀ ∧
      let c := (c₀.tlsRequested charset).secured
      c.serverCapabilities &&& PLUGIN_AUTH_LENENC_CLIENT_DATA ≠ 0 ∧ 0 ∉ c.options.user.asBytes ∧
      (∀ db ∈ c.options.database, 0 ∉ db.asBytes) ∧
      (makeAuthResponse c.authPluginName c.options.password c.salt c.secure).length ≤ usizeMax ∧
      c.connectAttrs.length ≤ usizeMax ∧ writeAuthPacket (c.clientFlag ||| SSL) c = .ok () c' := by
    refine ⟨_, ⟨45, "utf8mb4", true⟩, _, ⟨_, .alone 1 _, rfl, rfl, rfl⟩, ?_, ?_, ?_, ?_, ?_, rfl⟩
    all_goals decide
  have ⟨payload, attrs, h⟩ := writeAuthPacket_parsed (hg.announces.secured charset) true rfl hg.plain
    (.inl hs) hu hd hr hl hw
  exact ⟨c₀, charset, c', payload, attrs, hg, hw, h⟩

end Examples
end MySQL
