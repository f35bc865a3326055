import Mathlib.Data.ZMod.Basic
import MysqlRs.Auth.Plugins
import MysqlRs.Library.Masking

namespace MySQL

section Scrambles

variable [Crypto]

-- The server has the hash of the hash of the password, and the nonce that it sent.
def NativeAccepts (nonce stored response : Bytes) : Prop :=
  Crypto.sha1 (Masking.xor response (Crypto.sha1 (nonce ++ stored))) = stored

def CachingSha2Accepts (nonce stored response : Bytes) : Prop :=
  Crypto.sha256 (Masking.xor response (Crypto.sha256 (stored ++ nonce))) = stored

variable {password : Bytes}

theorem scrambleNativePassword_accepted (h : ∀ m, (Crypto.sha1 m).length = 20) (hp : password ≠ [])
    {nonce : Bytes} (hn : nonce.length = SCRAMBLE_LENGTH) (rest : Bytes) :
    NativeAccepts nonce (Crypto.sha1 (Crypto.sha1 password))
      (scrambleNativePassword password (nonce ++ rest)) := by
  have hl : (Crypto.sha1 password).length ≤
      (Crypto.sha1 (nonce ++ Crypto.sha1 (Crypto.sha1 password))).length := by rw [h, h]
  have hr : scrambleNativePassword password (nonce ++ rest) =
      Masking.xor (Crypto.sha1 password) (Crypto.sha1 (nonce ++ Crypto.sha1 (Crypto.sha1 password))) := by
    rw [scrambleNativePassword, if_neg hp, List.take_left' hn, Masking.xor_comm]
    rfl
  rw [NativeAccepts, hr, Masking.xor_cancel hl]

theorem scrambleCachingSha2_accepted (h : ∀ m, (Crypto.sha256 m).length = 32) (hp : password ≠ [])
    (nonce : Bytes) :
    CachingSha2Accepts nonce (Crypto.sha256 (Crypto.sha256 password))
      (scrambleCachingSha2 password nonce) := by
  have hl : (Crypto.sha256 password).length ≤
      (Crypto.sha256 (Crypto.sha256 (Crypto.sha256 password) ++ nonce)).length := by rw [h, h]
  have hr : scrambleCachingSha2 password nonce =
      Masking.xor (Crypto.sha256 password)
        (Crypto.sha256 (Crypto.sha256 (Crypto.sha256 password) ++ nonce)) := by
    rw [scrambleCachingSha2, if_neg hp]
    rfl
  rw [CachingSha2Accepts, hr, Masking.xor_cancel hl]

-- Only the first bytes of a longer nonce count for mysql_native_password.
theorem scrambles_accepted (h₁ : ∀ m, (Crypto.sha1 m).length = 20)
    (h₂ : ∀ m, (Crypto.sha256 m).length = 32) (hp : password ≠ []) {nonce : Bytes}
    (hn : nonce.length = SCRAMBLE_LENGTH) :
    (∀ rest, NativeAccepts nonce (Crypto.sha1 (Crypto.sha1 password))
      (scrambleNativePassword password (nonce ++ rest))) ∧
    NativeAccepts nonce (Crypto.sha1 (Crypto.sha1 password)) (scrambleNativePassword password nonce) ∧
    CachingSha2Accepts nonce (Crypto.sha256 (Crypto.sha256 password))
      (scrambleCachingSha2 password nonce) := by
  have hr := scrambleNativePassword_accepted h₁ hp hn
  refine ⟨hr, ?_, scrambleCachingSha2_accepted h₂ hp nonce⟩
  simpa using hr []

end Scrambles

section RsaMessage

-- What is handed to RSA-OAEP, whatever the libraries are like.
def RsaPlaintext (password nonce message : Bytes) : Prop :=
  ∀ (_ : Crypto) (publicKey : Bytes), sha2RsaEncrypt password nonce publicKey = do
    let spki ← parsePublicKeyPem publicKey
    (Crypto.oaep spki message).mapError OaepFailure.toError

-- The server unmasks every byte of it.
def serverUnmask (nonce message : Bytes) : Bytes :=
  Masking.mask nonce SCRAMBLE_LENGTH message

variable {password nonce : Bytes}

theorem xorPassword_eq (h : SCRAMBLE_LENGTH ≤ nonce.length) :
    xorPassword password nonce = Masking.mask nonce SCRAMBLE_LENGTH password := by
  have hl : (nonce.take SCRAMBLE_LENGTH).length = SCRAMBLE_LENGTH := List.length_take_of_le h
  have hn : nonce.take SCRAMBLE_LENGTH ≠ [] := fun hn => nomatch hl.symm.trans (congrArg List.length hn)
  have hk (i : Nat) : (nonce.take SCRAMBLE_LENGTH).getD (i % SCRAMBLE_LENGTH) 0 =
      nonce.getD (i % SCRAMBLE_LENGTH) 0 := by
    have hi : i % SCRAMBLE_LENGTH < SCRAMBLE_LENGTH := Nat.mod_lt _ (by decide)
    rw [List.getD_eq_getElem?_getD, List.getElem?_take_of_lt hi, ← List.getD_eq_getElem?_getD]
  simp only [xorPassword, if_neg hn, hl, hk, Masking.mask]

theorem rsaPlaintext_iff {message : Bytes} :
    RsaPlaintext password nonce message ↔ message = xorPassword password nonce ++ [0] := by
  constructor
  case mp =>
    intro h
    -- A library that takes every key for a public key, and whose encryption shows the message.
    let shows : Crypto := {
      sha1 := id, sha256 := id, sha512 := id
      spkiFromPem := some
      certificateFromPem := fun _ => none
      certificateFromDer := fun _ => .error ""
      oaep := fun _ m => .ok m
      basepointMul := fun _ => []
    }
    exact (Except.ok.inj (h shows [])).symm
  case mpr =>
    rintro rfl _ _
    rfl

-- The NUL behind the password is handed over as it is, and the server unmasks it with a byte of the nonce.
theorem serverUnmask_rsaPlaintext (h : SCRAMBLE_LENGTH ≤ nonce.length) :
    serverUnmask nonce (xorPassword password nonce ++ [0]) =
      password ++ [nonce.getD (password.length % SCRAMBLE_LENGTH) 0] := by
  have hl : (Masking.mask nonce SCRAMBLE_LENGTH password).length = password.length := by
    simp [Masking.mask]
  rw [serverUnmask, xorPassword_eq h, Masking.mask_append, Masking.mask_mask, hl, UInt8.zero_xor]

theorem rsaMessage_decodes_iff (h : SCRAMBLE_LENGTH ≤ nonce.length) :
    (∃ message, RsaPlaintext password nonce message ∧ serverUnmask nonce message = password ++ [0]) ↔
      nonce.getD (password.length % SCRAMBLE_LENGTH) 0 = 0 := by
  simp only [rsaPlaintext_iff, exists_eq_left, serverUnmask_rsaPlaintext h, List.append_cancel_left_eq,
    List.cons.injEq, and_true]

theorem rsaMessage_decodes_zeros :
    (∃ message, RsaPlaintext [97] (List.replicate 20 0) message ∧
      serverUnmask (List.replicate 20 0) message = [97, 0]) ↔
        (List.replicate 20 (0 : UInt8)).getD (1 % SCRAMBLE_LENGTH) 0 = 0 :=
  @rsaMessage_decodes_iff [97] _ (by decide)

-- With the password `a` and a nonce of ones, the server finds a byte other than NUL behind the password.
theorem rsaMessage_not_terminated :
    ¬∃ message, RsaPlaintext [97] (List.replicate 20 1) message ∧
      serverUnmask (List.replicate 20 1) message = [97, 0] := by
  intro ⟨message, hm, hs⟩
  rw [rsaPlaintext_iff] at hm
  exact absurd (hm ▸ hs) (by decide)

end RsaMessage

section Signature

-- The group that the base point generates, and the compressed form of its elements.
structure Curve (G : Type) [AddCommGroup G] where
  base : G
  compress : G → Bytes
  order : addOrderOf base = scalarOrder
  compress_length (p : G) : (compress p).length = 32

-- The second bit from the top is set, the top one and the three lowest ones are clear.
def clamp (n : Nat) : Nat :=
  2 ^ 254 + n % 2 ^ 254 / 8 * 8

theorem scalarOrder_pos : 0 < scalarOrder := by
  decide

theorem scalarOrder_lt : scalarOrder < 256 ^ 32 := by
  decide

theorem and_248_toNat (b : UInt8) : (b &&& 248).toNat = b.toNat / 8 * 8 := by
  have h : ∀ n < 256, n &&& 248 = n / 8 * 8 := by decide +kernel
  exact (UInt8.toNat_and _ _).trans (h b.toNat b.toNat_lt)

theorem and_127_or_64_toNat (b : UInt8) : ((b &&& 127) ||| 64).toNat = b.toNat % 64 + 64 := by
  have h : ∀ n < 256, n &&& 127 ||| 64 = n % 64 + 64 := by decide +kernel
  rw [UInt8.toNat_or, UInt8.toNat_and]
  exact h b.toNat b.toNat_lt

theorem modify_concat (f : UInt8 → UInt8) (bytes : Bytes) (b : UInt8) :
    (bytes ++ [b]).modify bytes.length f = bytes ++ [f b] := by
  induction bytes
  case nil        => rfl
  case cons _ _ ih => simpa using ih

-- What is done to the bytes of the secret, as an operation on numbers.
theorem clampScalar_eq {secret : Bytes} (h : secret.length = 32) :
    clampScalar secret = clamp (LittleEndian.decode secret) % scalarOrder := by
  obtain ⟨first, rest, rfl⟩ : ∃ first rest, secret = first :: rest :=
    List.exists_cons_of_ne_nil fun hn => nomatch hn ▸ h
  have hr : rest ≠ [] := fun hn => by simp [hn] at h
  obtain ⟨middle, last, rfl⟩ : ∃ middle last, rest = middle ++ [last] :=
    ⟨_, _, (List.dropLast_concat_getLast hr).symm⟩
  have hm : middle.length = 30 := by simpa using h
  have hb : ((((first :: (middle ++ [last])).take 32).modify 0 (· &&& 248)).modify 31 (· &&& 127)).modify 31
      (· ||| 64) = (first &&& 248) :: (middle ++ [(last &&& 127) ||| 64]) := by
    rw [List.take_of_length_le (Nat.le_of_eq h), List.modify_zero_cons]
    have hi : 31 = middle.length + 1 := by rw [hm]
    simp only [hi, List.modify_succ_cons, modify_concat]
  have hf := first.toNat_lt
  have hl := last.toNat_lt
  have hd := LittleEndian.decode_lt middle
  rw [clampScalar, hb]
  simp only [LittleEndian.decode, LittleEndian.decode_append, hm, and_248_toNat, and_127_or_64_toNat, clamp] at hd ⊢
  congr 1
  omega

variable [Crypto] {G : Type} [AddCommGroup G]

-- The secret scalar of the password, and the public key that the server has.
def secretScalar (password : Bytes) : Nat :=
  clamp (LittleEndian.decode ((Crypto.sha512 password).take 32))

def Curve.publicKey (curve : Curve G) (password : Bytes) : G :=
  secretScalar password • curve.base

-- The check of the server: `S * B = R + k * A`.
def Curve.Verifies (curve : Curve G) (publicKey : G) (message signature : Bytes) : Prop :=
  ∃ R : G, signature.take 32 = curve.compress R ∧
    let S := LittleEndian.decode (signature.drop 32)
    let k := LittleEndian.decode
      (Crypto.sha512 (curve.compress R ++ curve.compress publicKey ++ message)) % scalarOrder
    S • curve.base = R + k • publicKey

omit [Crypto] in
theorem Curve.mod_smul (curve : Curve G) (n : Nat) :
    (n % scalarOrder) • curve.base = n • curve.base := by
  rw [← curve.order, mod_addOrderOf_nsmul]

theorem scalarReduce_eq (h : ∀ m, (Crypto.sha512 m).length = 64) (message : Bytes) :
    scalarReduce (Crypto.sha512 message) = LittleEndian.decode (Crypto.sha512 message) % scalarOrder := by
  rw [scalarReduce, List.take_of_length_le (Nat.le_of_eq (h message))]

theorem ed25519Password_verifies (curve : Curve G)
    (hb : ∀ n, Crypto.basepointMul n = curve.compress (n • curve.base))
    (hh : ∀ m, (Crypto.sha512 m).length = 64) (password message : Bytes) :
    (ed25519Password password message).length = 64 ∧
      curve.Verifies (curve.publicKey password) message (ed25519Password password message) := by
  have hs : ((Crypto.sha512 password).take 32).length = 32 := by simp [hh]
  -- The secret is reduced before it is used. The public key does not depend on that.
  have ha : clampScalar ((Crypto.sha512 password).take 32) • curve.base = curve.publicKey password := by
    rw [clampScalar_eq hs, curve.mod_smul]
    rfl
  simp only [ed25519Password, hb, ha, scalarReduce_eq hh]
  generalize LittleEndian.decode _ % scalarOrder = r
  generalize hk : LittleEndian.decode _ % scalarOrder = k
  generalize hx : (k * clampScalar ((Crypto.sha512 password).take 32) + r) % scalarOrder = S
  have hl := curve.compress_length (r • curve.base)
  have hS : LittleEndian.decode (LittleEndian.encode 32 S) = S :=
    LittleEndian.decode_encode_of_lt (hx ▸ Nat.lt_trans (Nat.mod_lt _ scalarOrder_pos) scalarOrder_lt)
  constructor
  · simp [hl]
  · refine ⟨r • curve.base, List.take_left' hl, ?_⟩
    simp only [List.drop_left' hl, hS, hk]
    rw [← hx, curve.mod_smul, add_smul, mul_smul, ha, add_comm]

end Signature

section Examples

-- A byte string by its digits.
def digits (width n : Nat) : Bytes :=
  (LittleEndian.encode width n).reverse

def recordedNonce : Bytes :=
  digits 20 0x0102030405060708090a0b0c0d0e0f1011121314

-- The values of SHA-1, SHA-256 and SHA-512 and the multiples of the base point that the password `a` and
-- the nonce lead to.
def recordedSha1 (m : Bytes) : Bytes :=
  let stage1 := digits 20 0x86f7e437faa5a7fce15d1ddcb9eaeaea377667b8
  let stage2 := digits 20 0x667f407de7c6ad07358fa38daed7828a72014b4e
  if m = [97] then stage1
  else if m = stage1 then stage2
  else if m = recordedNonce ++ stage2 then digits 20 0x50cf4b20fd13c3331fd8cb600b7177ecc6343f12
  else List.replicate 20 0

def recordedSha256 (m : Bytes) : Bytes :=
  let p1 := digits 32 0xca978112ca1bbdcafac231b39a23dc4da786eff8147c4e72b9807785afee48bb
  let p2 := digits 32 0xbf5d3affb73efd2ec6c36ad3112dd933efed63c4e1cbffcfa88e2759c144f2d8
  if m = [97] then p1
  else if m = p1 then p2
  else if m = p2 ++ recordedNonce then
    digits 32 0x81a242751846b7178ee72850cd1dd0ce91896a43729ac65f385266a5493bc95f
  else List.replicate 32 0

def recordedCurve : Curve (ZMod scalarOrder) where
  base := 1
  compress p :=
    if p.val = 0xe3bf76daecc6f1401e31932ba86d614791fb13a20208e538faf2aad14e18ced then
      digits 32 0xf84a9c3d9e239d448104fde2a43f97008bf1aae39e1eb46ab9bdd681c020e534
    else if p.val = 0x30f0e56d054bc5ae05d33188ed2d7d58a281413bfa2f945dbba3556c22f1c77 then
      digits 32 0x1af4668bdba78058c90fdb0a8daabf4f708bd4b98ed822e9cf9238da09c1ec48
    else LittleEndian.encode 32 p.val
  order := ZMod.addOrderOf_one _
  compress_length _ := by split_ifs <;> simp [digits]

def recordedSha512 (m : Bytes) : Bytes :=
  let h := digits 64
    0x1f40fc92da241694750979ee6cf582f2d5d7d28e18335de05abc54d0560e0f5302860c652bf08d560252aa5e74210546f369fbbbce8c12cfc7957b2652fe9a75
  if m = [97] then h
  else if m = h.drop 32 ++ recordedNonce then digits 64
    0x607a4b12770a65d224a56ab8f8a9c229d4eed45f6151406c4f535fd2bda6fde3b9520af9c53083e45413e7a9e190a6c2dda5992d463744252a62934c719b498c
  else if m = digits 64
      0xf84a9c3d9e239d448104fde2a43f97008bf1aae39e1eb46ab9bdd681c020e5341af4668bdba78058c90fdb0a8daabf4f708bd4b98ed822e9cf9238da09c1ec48
      ++ recordedNonce then digits 64
    0xe3f42ea4552e129185e7278de2e1d026e2506ce51e1f207305dc70f03a2d509cadd9b9314b876a7e931cb83732bd8abe3f2fda4c0681dc47f30e347b0b5435b3
  else List.replicate 64 0

@[reducible]
def Crypto.recorded : Crypto where
  sha1 := recordedSha1
  sha256 := recordedSha256
  sha512 := recordedSha512
  spkiFromPem _ := none
  certificateFromPem _ := none
  certificateFromDer _ := .error ""
  oaep _ _ := .error .publicKey
  basepointMul n := recordedCurve.compress (n • recordedCurve.base)

attribute [local instance] Crypto.recorded

theorem recordedSha1_length (m : Bytes) : (recordedSha1 m).length = 20 := by
  simp only [recordedSha1]
  split_ifs <;> simp [digits]

theorem recordedSha256_length (m : Bytes) : (recordedSha256 m).length = 32 := by
  simp only [recordedSha256]
  split_ifs <;> simp [digits]

theorem recordedSha512_length (m : Bytes) : (recordedSha512 m).length = 64 := by
  simp only [recordedSha512]
  split_ifs <;> simp [digits]

theorem scrambles_accepted_recorded :
    (∀ rest, NativeAccepts recordedNonce (Crypto.sha1 (Crypto.sha1 [97]))
      (scrambleNativePassword [97] (recordedNonce ++ rest))) ∧
    NativeAccepts recordedNonce (Crypto.sha1 (Crypto.sha1 [97])) (scrambleNativePassword [97] recordedNonce) ∧
    CachingSha2Accepts recordedNonce (Crypto.sha256 (Crypto.sha256 [97]))
      (scrambleCachingSha2 [97] recordedNonce) :=
  scrambles_accepted recordedSha1_length recordedSha256_length (by decide) (by decide)

theorem ed25519Password_verifies_recorded :
    (ed25519Password [97] recordedNonce).length = 64 ∧
      recordedCurve.Verifies (recordedCurve.publicKey [97]) recordedNonce
        (ed25519Password [97] recordedNonce) :=
  ed25519Password_verifies recordedCurve (fun _ => rfl) recordedSha512_length [97] recordedNonce

end Examples
end MySQL
