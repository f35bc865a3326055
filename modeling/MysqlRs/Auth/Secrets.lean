import MysqlRs.Auth.Opening

namespace MySQL

open MysqlPacket

-- The nonce that a credential depends on.
def Credential.nonce : Credential → Option Bytes
  | native nonce | cachingSha2 nonce | ed25519 nonce | rsa nonce _ => some nonce
  | empty | byte _ | clear => none

theorem AuthPlugin.response_nonce {plugin : AuthPlugin} {password salt nonce : Bytes} {secure : Bool}
    (h : nonce ∈ (plugin.response password salt secure).nonce) : nonce = salt := by
  cases plugin
  case sha256Password =>
    rw [response] at h
    split_ifs at h
    all_goals cases h
  case mysqlNativePassword | cachingSha2Password | clientEd25519 => exact (Option.some.inj h).symm
  all_goals cases h

theorem AuthPlugin.response_clear_iff {plugin : AuthPlugin} {password salt : Bytes} :
    plugin.response password salt false = .clear ↔ plugin = .mysqlClearPassword := by
  cases plugin
  case sha256Password =>
    rw [response]
    split_ifs <;> simp_all
  all_goals simp [response]

namespace Connection

section Sends

variable [Libraries] [Crypto] [Host] {key p : Bytes} {c : Connection}

omit [Libraries] [Crypto] [Host] in
theorem sha256Answer_cases (c : Connection) :
    (c.secure ∧ c.sha256Answer = .send .clear .initial) ∨
    (¬c.secure ∧ c.options.password = [] ∧ c.sha256Answer = .send (.byte 0) .initial) ∨
    (¬c.secure ∧ c.options.password ≠ [] ∧ c.sha256Answer = .send (.byte 1) .sha256Password) := by
  rw [sha256Answer]
  split_ifs with hs hp
  · exact .inl ⟨hs, rfl⟩
  · exact .inr (.inl ⟨hs, hp, rfl⟩)
  · exact .inr (.inr ⟨hs, hp, rfl⟩)

omit [Libraries] [Crypto] in
-- When the client encrypts, and with what.
theorem Sends.rsa {nonce : Bytes} (h : Sends c p (.rsa nonce key)) :
    nonce = c.salt ∧
      ((c.authPhase = .cachingSha2PublicKey ∨ c.authPhase = .sha256Password) ∧
          (new p).isExtraAuthData ∧ key = p.tail ∨
        c.authPhase = .sha256Password ∧ ¬(new p).isExtraAuthData ∧ ¬(new p).isErrorPacket ∧
          c.serverPublicKey = some key) := by
  have ⟨_, phase, hr⟩ := h.reacts
  generalize hx : Reply.send _ phase = r at hr
  cases hr
  case switchSha256 | sha256Start =>
    obtain ⟨_, h⟩ | ⟨_, _, h⟩ | ⟨_, _, h⟩ := sha256Answer_cases c
    all_goals exact nomatch hx.trans h
  case publicKey hi he         => cases hx; exact ⟨rfl, .inl ⟨.inl hi, he, rfl⟩⟩
  case sha256Key hi _ he       => cases hx; exact ⟨rfl, .inl ⟨.inr hi, he, rfl⟩⟩
  case sha256Stored hi _ _ _ _ => cases hx; exact ⟨rfl, .inr ⟨hi, ‹_›, ‹_›, ‹_›⟩⟩
  all_goals exact nomatch hx

omit [Libraries] [Crypto] in
-- When the client sends the password as it is.
theorem Sends.clear (h : Sends c p .clear) :
    c.secure ∨ c.authPhase = .initial ∧ (new p).isAuthSwitchRequest ∧
      AuthPlugin.fromBytes (switchName p.tail) = .mysqlClearPassword := by
  have ⟨_, phase, hr⟩ := h.reacts
  generalize hx : Reply.send _ phase = r at hr
  cases hr
  case switchSha256 | sha256Start =>
    obtain ⟨hs, _⟩ | ⟨_, _, h⟩ | ⟨_, _, h⟩ := sha256Answer_cases c
    · exact .inl hs
    all_goals exact nomatch hx.trans h
  case fastSecure hs        => exact .inl hs
  case switchClear hi hs hn => exact .inr ⟨hi, hs, hn⟩
  all_goals exact nomatch hx

omit [Libraries] [Crypto] in
-- The nonces that come to be used.
theorem Sends.nonce {nonce : Bytes} {credential : Credential} (h : Sends c p credential)
    (hn : nonce ∈ credential.nonce) :
    ((new p).isAuthSwitchRequest ∧ nonce = switchNonce p.tail) ∨ ∃ key, credential = .rsa nonce key := by
  have ⟨_, phase, hr⟩ := h.reacts
  generalize hx : Reply.send credential phase = r at hr
  cases hr
  case switchSha256 | sha256Start =>
    obtain ⟨_, h⟩ | ⟨_, _, h⟩ | ⟨_, _, h⟩ := sha256Answer_cases c
    all_goals
      rw [h] at hx
      cases hx
      exact nomatch hn
  case switchNative hs _ | switchCachingSha2 hs _ =>
    cases hx
    exact .inl ⟨hs, (Option.some.inj hn).symm⟩
  case publicKey | sha256Key | sha256Stored =>
    cases hx
    obtain rfl := Option.some.inj hn
    exact .inr ⟨_, rfl⟩
  all_goals cases hx
  all_goals exact nomatch hn

omit [Libraries] [Crypto] in
-- A key that the server sends is used at once.
theorem sends_key (hx : (new p).isExtraAuthData)
    (h : c.authPhase = .cachingSha2PublicKey ∨ c.authPhase = .sha256Password ∧ c.options.password ≠ []) :
    Sends c p (.rsa c.salt p.tail) := by
  have he := (new p).isErrorPacket_of_extra hx
  refine ⟨c.setServerPublicKey p.tail, .initial, ?_⟩
  obtain hi | ⟨hi, hp⟩ := h
  · simp [reaction, hi, publicKeyReply, he, hx]
  · simp [reaction, hi, sha256Reply, he, hx, hp]

-- What comes of the first packet of sha256_password on a channel that is not secure.
theorem authStep_sha256Start {a : Arrival} {salt : Bytes} (ha : a.payload = 1 :: salt)
    (hp : c.packetStream.compressed = false) (hi : c.authPhase = .initial)
    (hn : c.authPluginName = .sha256Password) (hs : c.secure = false) (hpw : c.options.password ≠ []) :
    authStep a c = .ok .send
      (((c.setSalt (trimNul salt)).setStream (c.packetStream.past a)).sent [1] .sha256Password) := by
  refine authStep_of_sends (.byte 1) hp ?_ rfl
  rw [ha]
  have hw : (new (1 :: salt)).isAuthSwitchRequest = false := isAuthSwitchRequest_of_extra _ rfl
  have hx : (new (1 :: salt)).isExtraAuthData = true := rfl
  simp [reaction, hi, initialReply, hw, hx, hn, sha256Answer, hs, hpw]

-- What comes of a switch to sha256_password on such a channel.
theorem authStep_sha256Switch {a : Arrival} (ha : a.payload = p) (hp : c.packetStream.compressed = false)
    (hi : c.authPhase = .initial) (hw : (new p).isAuthSwitchRequest)
    (hn : AuthPlugin.fromBytes (switchName p.tail) = .sha256Password) (hs : c.secure = false)
    (hpw : c.options.password ≠ []) :
    authStep a c = .ok .send
      ((((c.setAuthPluginName .sha256Password).setSalt (switchNonce p.tail)).setStream
        (c.packetStream.past a)).sent [1] .sha256Password) := by
  refine authStep_of_sends (.byte 1) hp ?_ rfl
  rw [ha, reaction, hi]
  simp only [initialReply_switch _ hw, hn, switchReply, setAuthPluginName_authPluginName]
  simp [sha256Answer, hs, hpw]

end Sends

section Examples

attribute [local instance] Libraries.utf8Only Crypto.transparent Host.initProcess

theorem sha256Session_start (salt : Bytes) :
    ∃ c₀ c c', Greeted plainOptions sha256Greeting c₀ ∧ Began c₀ c false ∧ c₀.salt = greetingSalt ∧
      c.authPhase = .initial ∧ authStep (.alone 3 (1 :: salt)) c = .ok .send c' ∧
      c'.authPhase = .sha256Password ∧ c'.salt = trimNul salt ∧ c'.options = plainOptions := by
  have ⟨c₀, c, hg, hb, hs, hn⟩ := sha256Session
  have ho := hb.opened hg.secure_eq hg.plain
  have hopt := ho.options_eq.trans hg.options_eq
  have hstep := authStep_sha256Start (a := .alone 3 (1 :: salt)) rfl ho.plain ho.authPhase_eq
    (ho.authPluginName_eq.trans hn) ho.secure_eq (by rw [hopt]; nofun)
  exact ⟨c₀, c, _, hg, hb, hs, ho.authPhase_eq, hstep, rfl, rfl, hopt⟩

end Examples

section PinnedKey

variable [Libraries] [Crypto] [Host] {options : ConnectOptions} {greeting key p : Bytes}
  {c₀ c c' : Connection} {secure : Bool} {st : AuthState}

-- Encrypting takes the configured key.
def UsesKey (key : Bytes) (c : Connection) (p : Bytes) : Prop :=
  ∀ nonce key', Sends c p (.rsa nonce key') → key' = key

-- Where a public key is expected, the server sends the configured one, if any.
def RepeatsKey (key : Bytes) (c : Connection) (p : Bytes) : Prop :=
  c.authPhase = .cachingSha2PublicKey ∨ c.authPhase = .sha256Password →
    (new p).isExtraAuthData → p.tail = key

structure Pinned (key : Bytes) (c : Connection) : Prop where
  plain : c.packetStream.compressed = false
  serverPublicKey : c.serverPublicKey = some key
  password : c.authPhase = .sha256Password → c.options.password ≠ []

omit [Libraries] [Crypto] in
theorem usesKey_iff (h : Pinned key c) : UsesKey key c p ↔ RepeatsKey key c p := by
  constructor
  case mp =>
    intro hu hi hx
    exact hu _ _ (sends_key hx (hi.imp_right fun hi => ⟨hi, h.password hi⟩))
  case mpr =>
    intro hk nonce key' hs
    obtain ⟨_, ⟨hphase, hx, rfl⟩ | ⟨_, _, _, hkey⟩⟩ := hs.rsa
    · exact hk hphase hx
    · exact Option.some.inj (hkey.symm.trans h.serverPublicKey)

theorem Pinned.step {a : Arrival} (h : Pinned key c) (hk : RepeatsKey key c a.payload)
    (hs : authStep a c = .ok st c') : Pinned key c' := by
  have ⟨c₁, r, s, hx, hf, hcomp, hc⟩ := authStep_leaves h.plain hs
  have hr := hx ▸ reacts c a.payload
  have ⟨ho, _⟩ := reaction_kept c (new a.payload)
  rw [hx] at ho
  have hkey : c₁.serverPublicKey = some key := by
    cases hr
    case fail e => exact absurd rfl (hf e)
    case sha256Empty hi hp _ => exact absurd hp (h.password hi)
    case publicKey hi he => exact congrArg some (hk (.inl hi) he)
    case sha256Key hi _ he => exact congrArg some (hk (.inr hi) he)
    all_goals exact h.serverPublicKey
  have hphase (hn : r.phase c₁.authPhase = .sha256Password) : c.options.password ≠ [] := by
    cases hr
    case fail e => exact absurd rfl (hf e)
    case switchSha256 | sha256Start =>
      obtain ⟨_, h⟩ | ⟨_, _, h⟩ | ⟨_, hp, _⟩ := sha256Answer_cases c
      · exact nomatch h ▸ hn
      · exact nomatch h ▸ hn
      · exact hp
    case unchecked hi _ _ _ => exact nomatch hi.symm.trans hn
    all_goals exact nomatch hn
  exact hc ▸ {
    plain := hcomp
    serverPublicKey := hkey
    password := fun hn => ho ▸ hphase hn
  }

-- The configured key is the only one that is used as long as the server repeats it.
theorem run_usesKey_iff (hg : Greeted options greeting c₀) (hb : Began c₀ c secure)
    (hk : options.serverPublicKey = some key) (as : List Arrival) :
    EachStep (UsesKey key) as c ↔ EachStep (RepeatsKey key) as c := by
  have ho := hb.opened hg.secure_eq hg.plain
  refine EachWith.congr (I := fun _ => Pinned key) (fun _ _ _ => usesKey_iff)
    (fun _ _ _ _ _ hi hq hs => hi.step hq hs) {
      plain := ho.plain
      serverPublicKey := ho.serverPublicKey_eq.trans (hg.serverPublicKey_eq.trans hk)
      password := fun hn => nomatch ho.authPhase_eq.symm.trans hn
    }

end PinnedKey

section Examples

attribute [local instance] Libraries.utf8Only Crypto.transparent Host.initProcess

theorem repeatedKey_used :
    ∃ c₀ c, Greeted plainOptions sha256Greeting c₀ ∧ Began c₀ c false ∧
      EachStep (UsesKey pinnedKey) [.alone 3 [1, 65], .alone 5 (1 :: pinnedKey)] c := by
  have ⟨c₀, c, c', hg, hb, _, hi, hstep, _⟩ := sha256Session_start [65]
  refine ⟨c₀, c, hg, hb, (run_usesKey_iff hg hb rfl _).mpr (.cons ?_ hstep (.single fun _ _ => rfl))⟩
  rintro (h | h)
  · exact nomatch hi.symm.trans h
  · exact nomatch hi.symm.trans h

-- The server sends a key of its own.
theorem foreignKey_used :
    ∃ c₀ c, Greeted plainOptions sha256Greeting c₀ ∧ Began c₀ c false ∧
      ¬EachStep (UsesKey pinnedKey) [.alone 3 [1, 65], .alone 5 [1, 66]] c := by
  have ⟨c₀, c, c', hg, hb, _, _, hstep, hi, _, hopt⟩ := sha256Session_start [65]
  refine ⟨c₀, c, hg, hb, fun h => ?_⟩
  have hs := sends_key (c := c') (p := [1, 66]) rfl (.inr ⟨hi, by rw [hopt]; nofun⟩)
  exact absurd ((h.rest hstep).left _ _ hs) (by decide)

end Examples

section Cleartext

variable [Libraries] [Crypto] [Host] {options : ConnectOptions} {greeting p : Bytes}
  {c₀ c c' : Connection} {st : AuthState}

-- The password is not queued as it is.
def HidesPassword (c : Connection) (p : Bytes) : Prop :=
  ¬Sends c p .clear

-- The server does not ask for the password as it is.
def AsksForProof (c : Connection) (p : Bytes) : Prop :=
  ¬(c.authPhase = .initial ∧ (new p).isAuthSwitchRequest ∧
    AuthPlugin.fromBytes (switchName p.tail) = .mysqlClearPassword)

omit [Libraries] [Crypto] in
theorem sends_clear (hi : c.authPhase = .initial) (hs : (new p).isAuthSwitchRequest)
    (hn : AuthPlugin.fromBytes (switchName p.tail) = .mysqlClearPassword) : Sends c p .clear := by
  refine ⟨c.setAuthPluginName .mysqlClearPassword, .initial, ?_⟩
  rw [reaction, hi]
  simp only [initialReply_switch _ hs, hn]
  rfl

omit [Libraries] [Crypto] in
theorem hidesPassword_iff (h : c.secure = false) : HidesPassword c p ↔ AsksForProof c p := by
  refine not_congr ⟨fun hs => ?_, fun ⟨hi, hs, hn⟩ => sends_clear hi hs hn⟩
  obtain hsec | hasked := hs.clear
  · exact nomatch h.symm.trans hsec
  · exact hasked

theorem authStep_secure {a : Arrival} (hp : c.packetStream.compressed = false)
    (h : authStep a c = .ok st c') : c'.secure = c.secure ∧ c'.packetStream.compressed = false := by
  have ⟨c₁, r, s, hx, hf, hs, hc⟩ := authStep_leaves hp h
  have ⟨_, hsec, _⟩ := reaction_kept c (new a.payload)
  rw [hx] at hsec
  exact hc ▸ ⟨hsec, hs⟩

-- On a channel that is not secure, the password stays hidden as long as the server does not ask for it,
-- neither in the greeting nor in a request to switch.
theorem run_hidesPassword_iff (hg : Greeted options greeting c₀) (hb : Began c₀ c false)
    (as : List Arrival) :
    (¬Answers c₀ c false .clear ∧ EachStep HidesPassword as c) ↔
      c₀.authPluginName ≠ .mysqlClearPassword ∧ EachStep AsksForProof as c := by
  have ho := hb.opened hg.secure_eq hg.plain
  refine and_congr (not_congr ⟨fun h => ?_, fun h => ?_⟩) ?_
  · exact AuthPlugin.response_clear_iff.mp h.left.symm
  · exact AuthPlugin.response_clear_iff.mpr h ▸ ho.answers
  · refine EachWith.congr (I := fun _ c => c.secure = false ∧ c.packetStream.compressed = false)
      (fun _ _ _ hi => hidesPassword_iff hi.left) (fun _ _ _ _ _ hi _ hs => ?_) ⟨ho.secure_eq, ho.plain⟩
    have ⟨hsec, hp⟩ := authStep_secure hi.right hs
    exact ⟨hsec.trans hi.left, hp⟩

end Cleartext

section Examples

attribute [local instance] Libraries.utf8Only Crypto.transparent Host.initProcess

theorem sha256Flow_hidesPassword :
    ∃ c₀ c, Greeted plainOptions sha256Greeting c₀ ∧ Began c₀ c false ∧
      ¬Answers c₀ c false .clear ∧ EachStep HidesPassword [.alone 3 [1, 65]] c := by
  have ⟨c₀, c, hg, hb, _, hn⟩ := sha256Session
  refine ⟨c₀, c, hg, hb, (run_hidesPassword_iff hg hb _).mpr ⟨?_, .single fun ⟨_, hs, _⟩ => ?_⟩⟩
  · rw [hn]
    nofun
  · exact nomatch hs

-- The server switches to mysql_clear_password.
def clearSwitch : Bytes :=
  [0xFE] ++ Text.asBytes "mysql_clear_password".toList ++ [0] ++ greetingSalt ++ [0]

theorem clearSwitch_reveals :
    ∃ c₀ c, Greeted plainOptions sha256Greeting c₀ ∧ Began c₀ c false ∧
      ¬EachStep HidesPassword [.alone 3 clearSwitch] c := by
  have ⟨c₀, c, hg, hb, _⟩ := sha256Session
  have hi := (hb.opened hg.secure_eq hg.plain).authPhase_eq
  exact ⟨c₀, c, hg, hb, fun h => h.head (sends_clear hi (by decide) (by decide))⟩

end Examples
section Nonces

-- What an observer knows: the last nonce that the server has provided, and whether it is what the client
-- keeps for encrypting.
structure Nonces where
  current : Bytes
  kept : Bool

variable {g : Nonces} {c : Connection} {p : Bytes}

def Nonces.next (g : Nonces) (c : Connection) (p : Bytes) : Nonces :=
  if (new p).isAuthSwitchRequest then {
    current := switchNonce p.tail
    kept := c.authPhase = .initial ∧ AuthPlugin.fromBytes (switchName p.tail) = .sha256Password
  }
  else if c.authPhase = .initial ∧ (new p).isExtraAuthData ∧ c.authPluginName = .sha256Password then
    { g with kept := false }
  else g

theorem current_of_switch (hs : (new p).isAuthSwitchRequest) :
    (g.next c p).current = switchNonce p.tail := by
  rw [Nonces.next, if_pos hs]

theorem not_kept_of_switch (hs : (new p).isAuthSwitchRequest)
    (h : ¬(c.authPhase = .initial ∧ AuthPlugin.fromBytes (switchName p.tail) = .sha256Password)) :
    (g.next c p).kept = false := by
  rw [Nonces.next, if_pos hs]
  exact decide_eq_false h

theorem next_of_not_switch (hs : ¬(new p).isAuthSwitchRequest)
    (h : ¬(c.authPhase = .initial ∧ (new p).isExtraAuthData ∧ c.authPluginName = .sha256Password)) :
    g.next c p = g := by
  rw [Nonces.next, if_neg hs, if_neg h]

theorem current_of_not_switch (hs : ¬(new p).isAuthSwitchRequest) : (g.next c p).current = g.current := by
  rw [Nonces.next, if_neg hs]
  split_ifs
  · rfl
  · rfl

-- Beyond the initial phase, a nonce that is kept has been kept all the time.
theorem kept_of_next (hi : c.authPhase ≠ .initial) (h : (g.next c p).kept) :
    g.kept ∧ (g.next c p).current = g.current := by
  by_cases hs : (new p).isAuthSwitchRequest
  case pos => exact nomatch (not_kept_of_switch hs fun h => hi h.left).symm.trans h
  case neg =>
    rw [next_of_not_switch hs fun h => hi h.left] at h
    exact ⟨h, current_of_not_switch hs⟩

theorem next_of_fast (hx : (new p).isExtraAuthData) (hn : c.authPluginName = .cachingSha2Password) :
    g.next c p = g := by
  have hs := (new p).isAuthSwitchRequest_of_extra hx
  exact next_of_not_switch (by rw [hs]; nofun) fun h => nomatch hn.symm.trans h.right.right

variable [Host] {options : ConnectOptions} {greeting : Bytes} {c₀ c' : Connection} {secure : Bool}
  {st : AuthState} {as : List Arrival}

-- Every credential depends on the current nonce, if on any.
def UsesNonce (g : Nonces) (c : Connection) (p : Bytes) : Prop :=
  ∀ credential, Sends c p credential → ∀ nonce ∈ credential.nonce, nonce = (g.next c p).current

-- The client encrypts only while the current nonce is the one that it keeps.
def EncryptsKept (g : Nonces) (c : Connection) (p : Bytes) : Prop :=
  (c.authPhase = .cachingSha2PublicKey ∧ (new p).isExtraAuthData) ∨
    (c.authPhase = .sha256Password ∧ ¬(new p).isErrorPacket ∧
      ((new p).isExtraAuthData ∨ c.serverPublicKey.isSome)) → (g.next c p).kept

structure Tracks (g : Nonces) (c : Connection) : Prop where
  plain : c.packetStream.compressed = false
  salt : g.kept → c.salt = g.current

theorem usesNonce (hg : Tracks g c) (hk : EncryptsKept g c p) : UsesNonce g c p := by
  intro credential hs nonce hn
  obtain ⟨hw, rfl⟩ | ⟨key, rfl⟩ := hs.nonce hn
  case inl => exact (current_of_switch hw).symm
  case inr =>
    obtain ⟨rfl, ⟨hi, hx, _⟩ | ⟨hi, hx, he, hkey⟩⟩ := hs.rsa
    · have he := (new p).isErrorPacket_of_extra hx
      have hk := hk (hi.imp (⟨·, hx⟩) (⟨·, by rw [he]; nofun, .inl hx⟩))
      have hi : c.authPhase ≠ .initial := by
        obtain hi | hi := hi
        all_goals rw [hi]; nofun
      have ⟨hkept, hcur⟩ := kept_of_next hi hk
      exact (hg.salt hkept).trans hcur.symm
    · have hk := hk (.inr ⟨hi, he, .inr (by rw [hkey]; rfl)⟩)
      have ⟨hkept, hcur⟩ := kept_of_next (by rw [hi]; nofun) hk
      exact (hg.salt hkept).trans hcur.symm

variable [Libraries] [Crypto]

theorem Tracks.step {a : Arrival} (hg : Tracks g c) (hs : authStep a c = .ok st c') :
    Tracks (g.next c a.payload) c' := by
  have ⟨c₁, r, s, hx, hf, hcomp, hc⟩ := authStep_leaves hg.plain hs
  generalize a.payload = p at hx ⊢
  have hr := hx ▸ reacts c p
  clear hx
  suffices hsalt : (g.next c p).kept → c₁.salt = (g.next c p).current from
    hc ▸ { plain := hcomp, salt := hsalt }
  intro hk
  have keeps (hi : c.authPhase ≠ .initial) : c.salt = (g.next c p).current := by
    have ⟨hkept, hcur⟩ := kept_of_next hi hk
    exact (hg.salt hkept).trans hcur.symm
  have same (hn : g.next c p = g) : c.salt = (g.next c p).current := by
    rw [hn] at hk ⊢
    exact hg.salt hk
  cases hr
  case fail e => exact absurd rfl (hf e)
  case switchSha256 hw _ => exact (current_of_switch hw).symm
  case switchNative hw hn | switchCachingSha2 hw hn | switchClear hw hn =>
    have hn := not_kept_of_switch (g := g) (c := c) hw fun h => nomatch hn.symm.trans h.right
    exact nomatch hn.symm.trans hk
  case sha256Start hi hx hn =>
    have hw := (new p).isAuthSwitchRequest_of_extra hx
    rw [Nonces.next, if_neg (by rw [hw]; nofun), if_pos ⟨hi, hx, hn⟩] at hk
    exact nomatch hk
  case fastDone hx hn | fastSecure hx hn _ | fastRequest hx hn _ => exact same (next_of_fast hx hn)
  case unchecked hw hx _ => exact same (next_of_not_switch hw fun h => hx h.right.left)
  case fastOk hi _ | publicKey hi _ | sha256Key hi _ _ | sha256Stored hi _ _ _ _ =>
    exact keeps (by rw [hi]; nofun)
  case sha256Empty hi _ h =>
    have hsalt := keeps (by rw [hi]; nofun)
    obtain rfl | rfl := h
    all_goals exact hsalt

-- Every credential is made with the current nonce as long as the client encrypts only with a nonce that it
-- has kept.
theorem run_usesNonce (hg : Greeted options greeting c₀) (hb : Began c₀ c secure)
    (h : EachWith Nonces.next EncryptsKept as ⟨c₀.salt, true⟩ c) :
    (∀ credential, Answers c₀ c secure credential → ∀ nonce ∈ credential.nonce, nonce = c₀.salt) ∧
      EachWith Nonces.next UsesNonce as ⟨c₀.salt, true⟩ c := by
  have ho := hb.opened hg.secure_eq hg.plain
  refine ⟨fun credential ha nonce hn => ?_, ?_⟩
  · exact AuthPlugin.response_nonce (ha.left ▸ hn)
  · exact h.imp (I := Tracks) (fun _ _ _ => usesNonce) (fun _ _ _ _ _ hi _ hs => hi.step hs)
      { plain := ho.plain, salt := fun _ => ho.salt_eq }

end Nonces

section Examples

attribute [local instance] Libraries.utf8Only Crypto.transparent Host.initProcess

-- The server switches to sha256_password with a nonce of its own.
def sha256Switch : Bytes :=
  [0xFE] ++ Text.asBytes "sha256_password".toList ++ [0] ++ [66, 0]

theorem switchedFlow_usesNonce :
    ∃ c₀ c, Greeted plainOptions sha256Greeting c₀ ∧ Began c₀ c false ∧
      (∀ credential, Answers c₀ c false credential → ∀ nonce ∈ credential.nonce, nonce = c₀.salt) ∧
      EachWith Nonces.next UsesNonce [.alone 3 sha256Switch, .alone 5 [1, 75]] ⟨c₀.salt, true⟩ c := by
  have ⟨c₀, c, hg, hb, _⟩ := sha256Session
  have ho := hb.opened hg.secure_eq hg.plain
  have hstep := authStep_sha256Switch (a := .alone 3 sha256Switch) rfl ho.plain ho.authPhase_eq (by decide)
    (by decide) ho.secure_eq (by rw [ho.options_eq, hg.options_eq]; nofun)
  have hkept : (Nonces.next ⟨c₀.salt, true⟩ c sha256Switch).kept := by
    rw [Nonces.next, if_pos (by decide)]
    exact decide_eq_true ⟨ho.authPhase_eq, by decide⟩
  refine ⟨c₀, c, hg, hb, run_usesNonce hg hb (.cons ?_ hstep (.single fun _ => ?_))⟩
  · rintro (⟨hi, _⟩ | ⟨hi, _⟩)
    · exact nomatch ho.authPhase_eq.symm.trans hi
    · exact nomatch ho.authPhase_eq.symm.trans hi
  · have hi (h : AuthPhase.sha256Password = .initial) : False := nomatch h
    rw [next_of_not_switch (by decide) fun h => hi h.left]
    exact hkept

-- The server sends its public key at once, and once more when it is asked for it.
theorem keyTwice_loses_nonce :
    ∃ c₀ c, Greeted plainOptions sha256Greeting c₀ ∧ Began c₀ c false ∧
      ¬EachWith Nonces.next UsesNonce [.alone 3 [1, 75], .alone 5 [1, 75]] ⟨c₀.salt, true⟩ c := by
  have ⟨c₀, c, c', hg, hb, hs, _, hstep, hi, hsalt, hopt⟩ := sha256Session_start [75]
  refine ⟨c₀, c, hg, hb, fun h => ?_⟩
  have hsend := sends_key (c := c') (p := [1, 75]) rfl (.inr ⟨hi, by rw [hopt]; nofun⟩)
  have hn := (h.rest hstep).left _ hsend c'.salt rfl
  rw [current_of_not_switch (by decide), current_of_not_switch (by decide), hs, hsalt] at hn
  exact absurd hn (by decide)

end Examples
end Connection
end MySQL
