import MysqlRs.Runtime.Greeting

namespace MySQL
namespace Runtime

open ClientError Checked Raw
open Connection (trimNul)

section Scrambles

variable [Crypto]

def scrambleNativePassword (password message : Bytes) : Checked Bytes := do
  if password = [] then return []
  let stage1 := Crypto.sha1 password
  let stage2 := Crypto.sha1 stage1
  let message ← slice message 0 (min SCRAMBLE_LENGTH message.length)
  let result := Crypto.sha1 (message ++ stage2)
  vec isizeMax (myCrypt result stage1)

def scrambleCachingSha2 (password nonce : Bytes) : Checked Bytes :=
  vec isizeMax (MySQL.scrambleCachingSha2 password nonce)

def xorPassword (password salt : Bytes) : Checked Bytes := do
  let salt ← slice salt 0 (min SCRAMBLE_LENGTH salt.length)
  if salt = [] then return password
  password.zipIdx.mapM fun (b, i) => do return b ^^^ (← index salt (← rem i salt.length))

def sha2RsaEncrypt (password salt publicKey : Bytes) : Checked (Except Error Bytes) := do
  let message ← vec isizeMax ((← xorPassword password salt) ++ [0])
  match (do (Crypto.oaep (← parsePublicKeyPem publicKey) message).mapError OaepFailure.toError) with
  | .error e       => return .error e
  | .ok ciphertext => return .ok (← vec isizeMax ciphertext)

omit [Crypto] in
theorem slice_take (bytes : Bytes) (n : Nat) : slice bytes 0 (min n bytes.length) = .ok (bytes.take n) := by
  rw [slice_zero (Nat.min_le_right _ _), ← List.take_eq_take_min]

-- What is made is what the other function makes, and it fits in memory.
def Makes (x : Checked Bytes) (bytes : Bytes) : Prop :=
  x.Returns fun a => a = bytes ∧ a.length ≤ isizeMax

omit [Crypto] in
theorem vec_makes (bytes : Bytes) : Makes (vec isizeMax bytes) bytes :=
  (vec_returns bytes).mono fun _ h => ⟨h.left, h.left ▸ h.right⟩

theorem scrambleNativePassword_makes (password message : Bytes) :
    Makes (scrambleNativePassword password message) (MySQL.scrambleNativePassword password message) := by
  rw [scrambleNativePassword, MySQL.scrambleNativePassword]
  split_ifs
  case pos => exact ⟨rfl, Nat.zero_le _⟩
  case neg =>
    rw [slice_take]
    exact vec_makes _

omit [Crypto] in
theorem xorPassword_eq (password salt : Bytes) : xorPassword password salt = .ok (MySQL.xorPassword password salt) := by
  rw [xorPassword, MySQL.xorPassword, slice_take, ok_bind]
  split_ifs with hs
  case pos => rfl
  case neg =>
    have hpos : 0 < (salt.take SCRAMBLE_LENGTH).length := List.length_pos_iff.mpr hs
    have h : ∀ p ∈ password.zipIdx, (do return p.1 ^^^ (← index (salt.take SCRAMBLE_LENGTH)
        (← rem p.2 (salt.take SCRAMBLE_LENGTH).length)) : Checked UInt8) =
          .ok (p.1 ^^^ (salt.take SCRAMBLE_LENGTH).getD (p.2 % (salt.take SCRAMBLE_LENGTH).length) 0) := by
      intro p _
      rw [rem_eq hpos.ne', ok_bind, index_getD 0 (Nat.mod_lt _ hpos)]
      rfl
    rw [mapM_eq h, List.mapIdx_eq_zipIdx_map]

theorem sha2RsaEncrypt_returns (password salt publicKey : Bytes) :
    (sha2RsaEncrypt password salt publicKey).Returns fun a =>
      a = MySQL.sha2RsaEncrypt password salt publicKey ∧ ∀ bytes, a = .ok bytes → bytes.length ≤ isizeMax := by
  rw [sha2RsaEncrypt, xorPassword_eq, ok_bind]
  refine (vec_returns _).bind fun message h => ?_
  obtain ⟨rfl, -⟩ := h
  change Checked.Returns _ (match MySQL.sha2RsaEncrypt password salt publicKey with | .error e => _ | .ok c => _)
  cases MySQL.sha2RsaEncrypt password salt publicKey
  case error e => exact ⟨rfl, nofun⟩
  case ok c =>
    refine (vec_returns c).bind fun c' h => ?_
    obtain ⟨rfl, h⟩ := h
    exact ⟨rfl, fun bytes hb => Except.ok.inj hb ▸ h⟩

end Scrambles

variable [Libraries] [Crypto] [Host]

-- Reads from a packet, which goes on from the place that has been reached.
def onPacket {α : Type} (packet : MysqlPacket) (x : Reader α) : ConnRaw (α × MysqlPacket) := fun c => do
  let (r, packet) ← x packet
  return (r.map (·, packet), c)

def readPluginName : Reader (Option Bytes) := do
  let _ ← readUint8
  readString

def readFastResult : Reader UInt8 := do
  advance 1
  readUint8

section Machine

variable (turns : Nat)

def sendAuthData (data : Bytes) (phase : AuthPhase) : ConnRaw AuthState := do
  onStream (writePacket turns data)
  modify (·.setAuthPhase phase)
  return .send

def sendClear (password : Bytes) : ConnRaw AuthState := do
  sendAuthData turns (← vec isizeMax (password ++ [0])) .initial

def processAuthSwitch (authPacket : MysqlPacket) : ConnRaw AuthState := do
  let salt := trimNul (← onLocal authPacket readAll)
  let c ← get
  let password := c.options.password
  match c.authPluginName with
  | .mysqlNativePassword => sendAuthData turns (← scrambleNativePassword password salt) .initial
  | .cachingSha2Password => sendAuthData turns (← scrambleCachingSha2 password salt) .initial
  | .sha256Password      =>
    modify (·.setSalt salt)
    if c.secure then sendClear turns password
    else if password = [] then sendAuthData turns [0] .initial
    else sendAuthData turns [1] .sha256Password
  | .mysqlClearPassword  => sendClear turns password
  | plugin               =>
    throw (.operationalError CR_AUTH_PLUGIN_CANNOT_LOAD
      s!"Authentication plugin {plugin.debug} not configured")

def processCachingSha2Fast (authPacket : MysqlPacket) : ConnRaw AuthState := do
  if authPacket.isErrorPacket then throw (← raiseForError authPacket)
  if !authPacket.isExtraAuthData then
    throw (authPluginError
      s!"caching sha2: Unknown packet for fast auth: {authPacket.debugFirst}")
  let n ← onLocal authPacket readFastResult
  if n = 3 then
    let _ ← (← checkError authPacket : Except Error Unit)
    modify (·.setAuthPhase .cachingSha2FastSuccess)
    return .needRead
  else if n ≠ 4 then
    throw (authPluginError s!"caching sha2: Unknown result for fast auth: {n}")
  else if (← get).secure then
    sendClear turns (← get).options.password
  else
    sendAuthData turns [2] .cachingSha2PublicKey

def processCachingSha2PublicKey (pkt : MysqlPacket) : ConnRaw AuthState := do
  if pkt.isErrorPacket then throw (← raiseForError pkt)
  if !pkt.isExtraAuthData then
    throw (authPluginError s!"caching sha2: Unknown packet for public key: {pkt.debugFirst}")
  let key ← sliceFrom pkt.data 1
  modify (·.setServerPublicKey key)
  let c ← get
  let key ← expect c.serverPublicKey
  let data ← (← sha2RsaEncrypt c.options.password c.salt key : Except Error Bytes)
  sendAuthData turns data .initial

def processSha256Continue (authPacket : MysqlPacket) : ConnRaw AuthState := do
  let c ← get
  let password := c.options.password
  if c.authPhase = .initial then
    let salt ← sliceFrom authPacket.data 1
    modify (·.setSalt (trimNul salt))
    if c.secure then sendClear turns password
    else if password ≠ [] then sendAuthData turns [1] .sha256Password
    else sendAuthData turns [0] .initial
  else
    if authPacket.isErrorPacket then throw (← raiseForError authPacket)
    if authPacket.isExtraAuthData then
      let key ← sliceFrom authPacket.data 1
      modify (·.setServerPublicKey key)
    if password = [] then sendAuthData turns [] .initial
    else
      match (← get).serverPublicKey with
      | none     => throw (authPluginError "Couldn't receive server's public key")
      | some key =>
        let data ← (← sha2RsaEncrypt password (← get).salt key : Except Error Bytes)
        sendAuthData turns data .initial

def processAuthInitial (authPacket : MysqlPacket) : ConnRaw AuthState := do
  if authPacket.isAuthSwitchRequest then
    let (pluginName, authPacket) ← onPacket authPacket readPluginName
    modify (·.setAuthPluginName (AuthPlugin.fromBytes (pluginName.getD [])))
    processAuthSwitch turns authPacket
  else if authPacket.isExtraAuthData then
    match (← get).authPluginName with
    | .cachingSha2Password => processCachingSha2Fast turns authPacket
    | .sha256Password      => processSha256Continue turns authPacket
    | plugin               =>
      throw (authPluginError s!"Received extra packet for auth method {plugin.debug}")
  else
    let _ ← (← checkError authPacket : Except Error Unit)
    return .success

def requestAuthenticationContinue : ConnRaw AuthState := do
  let authPacket ← readPacket
  match (← get).authPhase with
  | .initial                => processAuthInitial turns authPacket
  | .cachingSha2FastSuccess =>
    if !authPacket.isOkPacket then
      throw (authPluginError "caching sha2: expected OK packet after fast auth")
    let ok ← onLocal authPacket OkPacketWrapper.fromPacket
    modify (·.setServerStatus ok.serverStatus)
    modify (·.setAuthPhase .initial)
    return .success
  | .cachingSha2PublicKey   => processCachingSha2PublicKey turns authPacket
  | .sha256Password         => processSha256Continue turns authPacket

end Machine

omit [Libraries] [Crypto] [Host] in
theorem readAll_eq {packet : MysqlPacket} (hp : packet.Fits) :
    (onLocal packet readAll : ConnRaw Bytes) = pure (packet.data.drop packet.position) :=
  funext fun c => (readAll_reads.onLocal hp c).left

omit [Libraries] [Crypto] [Host] in
theorem length_pos_of_extra {packet : MysqlPacket} (h : packet.isExtraAuthData) : 1 ≤ packet.data.length :=
  length_pos_of_head? (of_decide_eq_true h)

omit [Libraries] [Crypto] [Host] in
theorem raiseForError_sound {α : Type} {packet : MysqlPacket} {f : PUnit → ConnRaw α}
    {g : PUnit → Proc Error Connection α} {r : α → α → Prop}
    (h : Sound Connection.Fits r (f ⟨⟩) (g ⟨⟩)) :
    Sound Connection.Fits r
      (if packet.isErrorPacket then liftM (raiseForError packet) >>= fun e => throw e >>= f else f ⟨⟩)
      (if packet.isErrorPacket then Proc.throw packet.raiseForError >>= g else g ⟨⟩) := by
  refine .ite Iff.rfl (fun _ => .step (raiseForError_eq packet) ?_) fun _ => h
  exact .bind (r := fun _ _ => False) (.throw _) fun _ _ h => h.elim

omit [Libraries] [Crypto] [Host] in
theorem readFastResult_reads : Reads (fun _ => True) readFastResult Connection.readFastResult :=
  .bind (advance_reads 1) fun _ _ => readUint8_reads

omit [Libraries] [Crypto] [Host] in
theorem readPluginName_reads : Reads (fun _ => True) readPluginName Connection.readPluginName :=
  .bind readUint8_reads fun _ _ => readString_reads

omit [Libraries] [Crypto] [Host] in
theorem onPacket_sound {α : Type} {P : α → Prop} {x : Reader α} {y : MysqlPacket.Reader α} (h : Reads P x y)
    {packet : MysqlPacket} (hp : packet.Fits) : Sound Connection.Fits (fun a b => a = b ∧ a.2.Fits)
      (onPacket packet x) (Proc.ofExcept (y.run packet)) := by
  intro c hc
  have h := h packet hp
  rw [onPacket]
  change Meets _ _ _ (Proc.ofExcept (y packet) c)
  generalize x packet = o at h ⊢
  generalize y packet = o' at h ⊢
  cases h
  case ok a p _ hp => exact .ok ⟨rfl, hp⟩ hc
  case error       => exact .error hc

section Sound

variable {turns : Nat} (ht : isizeMax < turns)

include ht

omit [Crypto] [Host] in
theorem sendAuthData_sound {data : Bytes} (hd : data.length ≤ isizeMax) (phase : AuthPhase) :
    Sound Connection.Fits (fun a b => a = b) (sendAuthData turns data phase) (Connection.sendAuthData data phase) := by
  refine .bind (onStream_sound (writePacket_sound hd ht)) fun _ _ _ => ?_
  exact .bind (.modify fun _ hc => ⟨hc.1⟩) fun _ _ _ => .pure rfl

omit [Crypto] [Host] in
theorem sendByte_sound (b : UInt8) (phase : AuthPhase) :
    Sound Connection.Fits (fun a b => a = b) (sendAuthData turns [b] phase) (Connection.sendAuthData [b] phase) :=
  sendAuthData_sound ht (show [b].length ≤ isizeMax from Nat.lt_of_sub_eq_succ rfl) phase

omit [Crypto] [Host] in
theorem sendMade_sound {z : Checked Bytes} {data : Bytes} (hz : Makes z data) (phase : AuthPhase) :
    Sound Connection.Fits (fun a b => a = b) (do sendAuthData turns (← z) phase : ConnRaw AuthState)
      (Connection.sendAuthData data phase) := by
  refine .lift hz fun bytes h => ?_
  obtain ⟨rfl, h⟩ := h
  exact sendAuthData_sound ht h phase

omit [Crypto] [Host] in
theorem sendClear_sound (password : Bytes) : Sound Connection.Fits (fun a b => a = b) (sendClear turns password)
    (Connection.sendAuthData (password ++ [0]) .initial) :=
  sendMade_sound ht (vec_makes _) _

omit [Host] in
theorem sendEncrypted_sound (password salt key : Bytes) : Sound Connection.Fits (fun a b => a = b)
    (do
      let data ← (← sha2RsaEncrypt password salt key : Except Error Bytes)
      sendAuthData turns data .initial : ConnRaw AuthState)
    (do
      let data ← Proc.ofExcept (MySQL.sha2RsaEncrypt password salt key)
      Connection.sendAuthData data .initial) := by
  refine .lift (sha2RsaEncrypt_returns password salt key) fun data h => ?_
  obtain ⟨rfl, h⟩ := h
  cases hd : MySQL.sha2RsaEncrypt password salt key
  case error e => exact .throw e
  case ok data => exact sendAuthData_sound ht (h data hd) .initial

theorem processAuthSwitch_sound {authPacket : MysqlPacket} (hp : authPacket.Fits) :
    Sound Connection.Fits (fun a b => a = b) (processAuthSwitch turns authPacket)
      (Connection.processAuthSwitch authPacket) := by
  rw [processAuthSwitch, readAll_eq hp, pure_bind]
  refine .bind .get fun c _ h => ?_
  obtain ⟨rfl, hc⟩ := h
  cases c.authPluginName
  case mysqlNativePassword => exact sendMade_sound ht (scrambleNativePassword_makes _ _) _
  case cachingSha2Password => exact sendMade_sound ht (vec_makes _) _
  case sha256Password      =>
    refine .bind (.modify fun _ hc => ⟨hc.1⟩) fun _ _ _ => .ite Iff.rfl (fun _ => sendClear_sound ht _) fun _ => ?_
    exact .ite Iff.rfl (fun _ => sendByte_sound ht _ _) fun _ => sendByte_sound ht _ _
  case mysqlClearPassword  => exact sendClear_sound ht _
  all_goals exact .throw _

omit [Crypto] [Host] in
theorem processCachingSha2Fast_sound {authPacket : MysqlPacket} (hp : authPacket.Fits) :
    Sound Connection.Fits (fun a b => a = b) (processCachingSha2Fast turns authPacket)
      (Connection.processCachingSha2Fast authPacket) := by
  rw [processCachingSha2Fast, Connection.processCachingSha2Fast]
  refine raiseForError_sound ?_
  refine .guard Iff.rfl fun _ => ?_
  refine .bind (readFastResult_reads.sound hp) fun n _ h => ?_
  obtain ⟨rfl, -⟩ := h
  refine .ite Iff.rfl (fun _ => ?_) fun _ => .ite Iff.rfl (fun _ => .throw _) fun _ => ?_
  · refine .step (checkError_eq authPacket) (.bind (.ofExcept _) fun _ _ _ => ?_)
    exact .bind (.modify fun _ hc => ⟨hc.1⟩) fun _ _ _ => .pure rfl
  · refine .bind .get fun c _ h => ?_
    obtain ⟨rfl, -⟩ := h
    refine .ite Iff.rfl (fun _ => .bind .get fun c _ h => ?_) fun _ => sendByte_sound ht _ _
    obtain ⟨rfl, -⟩ := h
    exact sendClear_sound ht _

omit [Host] in
theorem processCachingSha2PublicKey_sound {pkt : MysqlPacket} :
    Sound Connection.Fits (fun a b => a = b) (processCachingSha2PublicKey turns pkt)
      (Connection.processCachingSha2PublicKey pkt) := by
  rw [processCachingSha2PublicKey, Connection.processCachingSha2PublicKey]
  refine raiseForError_sound ?_
  refine .guard Iff.rfl fun h => ?_
  have hl : 1 ≤ pkt.data.length := length_pos_of_extra (by simpa using h)
  refine .step (sliceFrom_eq hl) fun c hc => ?_
  refine .modify (.get (.step rfl ?_))
  exact sendEncrypted_sound ht _ _ _ (c.setServerPublicKey (pkt.data.drop 1)) ⟨hc.1⟩

-- The end of `processSha256Continue`.
omit [Host] in
theorem sendPassword_sound (password : Bytes) : Sound Connection.Fits (fun a b => a = b)
    (do
      if password = [] then sendAuthData turns [] .initial
      else
        match (← get).serverPublicKey with
        | none     => throw (authPluginError "Couldn't receive server's public key")
        | some key =>
          let data ← (← sha2RsaEncrypt password (← get).salt key : Except Error Bytes)
          sendAuthData turns data .initial : ConnRaw AuthState)
    (do
      if password = [] then Connection.sendAuthData [] .initial
      else
        match (← get).serverPublicKey with
        | none     => Proc.throw (authPluginError "Couldn't receive server's public key")
        | some key =>
          let data ← Proc.ofExcept (MySQL.sha2RsaEncrypt password (← get).salt key)
          Connection.sendAuthData data .initial) := by
  refine .ite Iff.rfl (fun _ => sendAuthData_sound ht (Nat.zero_le _) _) fun _ => .bind .get fun c _ h => ?_
  obtain ⟨rfl, -⟩ := h
  cases c.serverPublicKey
  case none     => exact .throw _
  case some key =>
    refine .bind .get fun c _ h => ?_
    obtain ⟨rfl, -⟩ := h
    exact sendEncrypted_sound ht _ _ _

omit [Host] in
theorem processSha256Continue_sound {authPacket : MysqlPacket} {c : Connection} (hc : c.Fits)
    (h : c.authPhase = .initial → authPacket.isExtraAuthData) :
    Meets Connection.Fits (fun a b => a = b) (processSha256Continue turns authPacket c)
      (Connection.processSha256Continue authPacket c) := by
  refine .get (.branch Iff.rfl (fun hi => ?_) fun _ => ?_)
  · refine .step (sliceFrom_eq (length_pos_of_extra (h hi))) ?_
    suffices hs : Sound Connection.Fits _ _ _ from .modify (hs _ ⟨hc.1⟩)
    refine .ite Iff.rfl (fun _ => sendClear_sound ht _) fun _ => ?_
    exact .ite Iff.rfl (fun _ => sendByte_sound ht _ _) fun _ => sendByte_sound ht _ _
  · refine raiseForError_sound ?_ c hc
    refine .ite Iff.rfl (fun hx => ?_) fun _ => sendPassword_sound ht _
    refine .step (sliceFrom_eq (length_pos_of_extra hx)) (.bind (.modify fun _ hc => ⟨hc.1⟩) fun _ _ _ => ?_)
    exact sendPassword_sound ht _

theorem processAuthInitial_sound {authPacket : MysqlPacket} (hp : authPacket.Fits) :
    Sound Connection.Fits (fun a b => a = b) (processAuthInitial turns authPacket)
      (Connection.processAuthInitial authPacket) := by
  refine .ite Iff.rfl (fun _ => ?_) fun _ => .ite Iff.rfl (fun hx => ?_) fun _ => ?_
  · refine .bind (onPacket_sound readPluginName_reads hp) fun a _ h => ?_
    obtain ⟨rfl, hp⟩ := h
    exact .bind (.modify fun _ hc => ⟨hc.1⟩) fun _ _ _ => processAuthSwitch_sound ht hp
  · refine .bind .get fun c _ h => ?_
    obtain ⟨rfl, -⟩ := h
    cases c.authPluginName
    case cachingSha2Password => exact processCachingSha2Fast_sound ht hp
    case sha256Password      => exact fun c hc => processSha256Continue_sound ht hc fun _ => hx
    all_goals exact .throw _
  · exact .step (checkError_eq authPacket) (.bind (.ofExcept _) fun _ _ _ => .pure rfl)

theorem requestAuthenticationContinue_sound : Sound Connection.Fits (fun a b => a = b)
    (requestAuthenticationContinue turns) Connection.requestAuthenticationContinue := by
  refine .bind readPacket_sound fun authPacket _ h => ?_
  obtain ⟨rfl, hp⟩ := h
  refine .withState fun c hc => ?_
  cases hphase : c.authPhase
  case initial                => exact processAuthInitial_sound ht hp c hc
  case cachingSha2FastSuccess =>
    suffices hs : Sound Connection.Fits _ _ _ from hs c hc
    refine .guard Iff.rfl fun _ => .bind (okFromPacket_reads.sound hp) fun ok _ h => ?_
    obtain ⟨rfl, -⟩ := h
    exact .bind (.modify fun _ hc => ⟨hc.1⟩) fun _ _ _ => .bind (.modify fun _ hc => ⟨hc.1⟩) fun _ _ _ => .pure rfl
  case cachingSha2PublicKey   => exact processCachingSha2PublicKey_sound ht c hc
  case sha256Password         => exact processSha256Continue_sound ht hc fun h => nomatch hphase.symm.trans h

end Sound

end Runtime
end MySQL
