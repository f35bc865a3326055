import MysqlRs.Core.Connection

namespace MySQL

open ClientError

def SCRAMBLE_LENGTH : Nat := 20

-- Where encrypting with a public key can fail.
inductive OaepFailure
  | publicKey
  | construct
  | encrypt

-- The cryptography libraries: hash functions, the ways to get at a SubjectPublicKeyInfo, RSA-OAEP, and
-- multiples of the base point of Curve25519 in their compressed form.
class Crypto where
  sha1 : Bytes → Bytes
  sha256 : Bytes → Bytes
  sha512 : Bytes → Bytes
  spkiFromPem : Bytes → Option Bytes
  certificateFromPem : Bytes → Option (Except String Bytes)
  certificateFromDer : Bytes → Except String (Except String Bytes)
  oaep : Bytes → Bytes → Except OaepFailure Bytes
  basepointMul : Nat → Bytes

section Scrambles

variable [Crypto]

def myCrypt (message1 message2 : Bytes) : Bytes :=
  List.zipWith (· ^^^ ·) message1 message2

def scrambleNativePassword (password message : Bytes) : Bytes :=
  if password = [] then []
  else
    let stage1 := Crypto.sha1 password
    let stage2 := Crypto.sha1 stage1
    let result := Crypto.sha1 (message.take SCRAMBLE_LENGTH ++ stage2)
    myCrypt result stage1

def scrambleCachingSha2 (password nonce : Bytes) : Bytes :=
  if password = [] then []
  else
    let p1 := Crypto.sha256 password
    let p2 := Crypto.sha256 p1
    let p3 := Crypto.sha256 (p2 ++ nonce)
    myCrypt p1 p3

def xorPassword (password salt : Bytes) : Bytes :=
  let salt := salt.take SCRAMBLE_LENGTH
  if salt = [] then password
  else password.mapIdx fun i b => b ^^^ salt.getD (i % salt.length) 0

def extractSpki (spki : Except String Bytes) : Except Error Bytes :=
  spki.mapError fun e =>
    .operationalError CR_AUTH_PLUGIN_ERR s!"Failed to extract SubjectPublicKeyInfo: {e}"

-- The key may be a public key in PEM, or a certificate in PEM or DER.
def parsePublicKeyPem (publicKey : Bytes) : Except Error Bytes :=
  match Crypto.spkiFromPem publicKey with
  | some spki => .ok spki
  | none      =>
    match Crypto.certificateFromPem publicKey with
    | some cert => extractSpki cert
    | none      => do
      let cert ← (Crypto.certificateFromDer publicKey).mapError fun e =>
        .operationalError CR_AUTH_PLUGIN_ERR s!"Failed to parse public key PEM/DER: {e}"
      extractSpki cert

def OaepFailure.toError : OaepFailure → Error
  | publicKey => .operationalError CR_AUTH_PLUGIN_ERR "Failed to parse public key"
  | construct => .operationalError CR_AUTH_PLUGIN_ERR "Failed to construct RSA-OAEP key"
  | encrypt   => .operationalError CR_AUTH_PLUGIN_ERR "RSA encryption failed"

def sha2RsaEncrypt (password salt publicKey : Bytes) : Except Error Bytes := do
  let message := xorPassword password salt ++ [0]
  let spki ← parsePublicKeyPem publicKey
  (Crypto.oaep spki message).mapError OaepFailure.toError

-- The order of the group that the base point generates.
def scalarOrder : Nat := 2 ^ 252 + 27742317777372353535851937790883648493

def clampScalar (s32 : Bytes) : Nat :=
  let h := s32.take 32
  let h := h.modify 0 (· &&& 248)
  let h := h.modify 31 (· &&& 127)
  let h := h.modify 31 (· ||| 64)
  LittleEndian.decode h % scalarOrder

def scalarReduce (hash : Bytes) : Nat :=
  LittleEndian.decode (hash.take 64) % scalarOrder

def ed25519Password (password scramble : Bytes) : Bytes :=
  let h := Crypto.sha512 password
  let s := clampScalar (h.take 32)
  let r := scalarReduce (Crypto.sha512 (h.drop 32 ++ scramble))
  let rEncoded := Crypto.basepointMul r
  let aEncoded := Crypto.basepointMul s
  let k := scalarReduce (Crypto.sha512 (rEncoded ++ aEncoded ++ scramble))
  rEncoded ++ LittleEndian.encode 32 ((k * s + r) % scalarOrder)

end Scrambles

namespace AuthPlugin

def fromBytes (name : Bytes) : AuthPlugin :=
  if name = Text.asBytes "mysql_native_password".toList then mysqlNativePassword
  else if name = Text.asBytes "caching_sha2_password".toList then cachingSha2Password
  else if name = Text.asBytes "sha256_password".toList then sha256Password
  else if name = Text.asBytes "mysql_clear_password".toList then mysqlClearPassword
  else if name = Text.asBytes "mysql_old_password".toList then mysqlOldPassword
  else if name = Text.asBytes "client_ed25519".toList then clientEd25519
  else if name = Text.asBytes "dialog".toList then dialog
  else other (Text.fromUtf8Lossy name)

def asBytes : AuthPlugin → Bytes
  | mysqlNativePassword => Text.asBytes "mysql_native_password".toList
  | cachingSha2Password => Text.asBytes "caching_sha2_password".toList
  | sha256Password      => Text.asBytes "sha256_password".toList
  | mysqlClearPassword  => Text.asBytes "mysql_clear_password".toList
  | mysqlOldPassword    => Text.asBytes "mysql_old_password".toList
  | clientEd25519       => Text.asBytes "client_ed25519".toList
  | dialog              => Text.asBytes "dialog".toList
  | other name          => name.asBytes

end AuthPlugin

-- The answer to the greeting.
def makeAuthResponse [Crypto] (plugin : AuthPlugin) (password salt : Bytes) (secure : Bool) : Bytes :=
  match plugin with
  | .mysqlNativePassword => scrambleNativePassword password salt
  | .cachingSha2Password => if password = [] then [] else scrambleCachingSha2 password salt
  | .sha256Password      => if secure then password ++ [0] else if password = [] then [0] else [1]
  | .mysqlClearPassword  => password ++ [0]
  | .clientEd25519       => ed25519Password password salt
  | _                    => []

end MySQL
