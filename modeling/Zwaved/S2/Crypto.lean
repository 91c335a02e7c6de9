import Zwaved.Bytes

/-!
# S2 cryptography

The S2 code reaches OpenSSL through `Crypto.cpp`. `OpenSsl` is the record of the primitives it
calls there, and everything above is parametric in it: the CCM wrappers, the CKDF key derivations
of `KeyDerivation.cpp`, and the AES-CTR DRBG of `Span.cpp` that both ends of a link run in lockstep
to agree on nonces. What the proofs rely on of OpenSSL is stated in `OpenSsl.CcmInverse`: opening
what was sealed, under the same key, nonce and associated data, gives the plaintext back.
-/

namespace Zwaved.S2

/-- An AES-128 key. -/
abbrev Key := Vector UInt8 16

/-- An AES block. -/
abbrev Block := Vector UInt8 16

/-- A CMAC. -/
abbrev Mac := Vector UInt8 16

/-- A Curve25519 public key. -/
abbrev PublicKey := Vector UInt8 32

/-- A Curve25519 private key. -/
abbrev PrivateKey := Vector UInt8 32

/-- An ECDH shared secret. -/
abbrev SharedSecret := Vector UInt8 32

/-- `Crypto::KeyPair`. -/
structure KeyPair where
  /-- `publicKey`. -/
  publicKey : PublicKey
  /-- `privateKey`. -/
  privateKey : PrivateKey
  deriving DecidableEq, Repr

/-- The OpenSSL primitives that `Crypto.cpp` calls. -/
structure OpenSsl where
  /-- AES-128-CCM encryption: the ciphertext and a tag of the length asked for. -/
  ccmSeal (key : Key) (nonce aad : Bytes) {n : ℕ} (plaintext : Vector UInt8 n) (tagLength : ℕ) :
    Vector UInt8 n × Vector UInt8 tagLength
  /-- AES-128-CCM decryption: the plaintext, when the tag is right. -/
  ccmOpen (key : Key) (nonce aad : Bytes) {n tagLength : ℕ} (cipher : Vector UInt8 n)
    (tag : Vector UInt8 tagLength) : Option (Vector UInt8 n)
  /-- AES-128-CMAC. -/
  cmac (key : Key) (data : Bytes) : Mac
  /-- AES-128 of one block. -/
  aesEcb (key : Key) (input : Block) : Block
  /-- X25519, which refuses a public key of low order. -/
  x25519 (ours : PrivateKey) (theirs : PublicKey) : Option SharedSecret

/-- CCM decryption undoes CCM encryption. -/
structure OpenSsl.CcmInverse (ssl : OpenSsl) : Prop where
  /-- What was sealed opens, under the same key, nonce and associated data. -/
  opens : ∀ (key : Key) (nonce aad : Bytes) {n : ℕ} (plaintext : Vector UInt8 n) (tagLength : ℕ),
    ssl.ccmOpen key nonce aad (ssl.ccmSeal key nonce aad plaintext tagLength).1
      (ssl.ccmSeal key nonce aad plaintext tagLength).2 = some plaintext

/-- A checksum over a byte string, from a start value. -/
def checksum (start : UInt8) (data : Bytes) : UInt8 :=
  data.foldl (fun sum byte => 31 * sum + byte) start

/-- A stand-in for OpenSSL to evaluate the model with: CCM is the plaintext in the clear under a
checksum for a tag, CMAC adds a checksum of the data to each key byte, AES is the identity, and
X25519 adds the two keys. -/
def OpenSsl.standIn : OpenSsl where
  ccmSeal key nonce aad _ plaintext tagLength :=
    (plaintext, Vector.replicate tagLength
      (checksum 7 (key.toList ++ (nonce ++ (aad ++ plaintext.toList)))))
  ccmOpen key nonce aad _ tagLength cipher tag :=
    if tag = Vector.replicate tagLength
      (checksum 7 (key.toList ++ (nonce ++ (aad ++ cipher.toList)))) then some cipher else none
  cmac key data := key.map (· + checksum 7 data)
  aesEcb _ input := input
  x25519 ours theirs := some (Vector.zipWith (· + ·) ours theirs)

/-- The stand-in opens what it sealed. -/
theorem OpenSsl.standIn_ccmInverse : OpenSsl.standIn.CcmInverse :=
  ⟨fun _ _ _ _ _ _ => if_pos rfl⟩

variable (ssl : OpenSsl)

namespace Crypto

/-- `ccmEncrypt`: the ciphertext followed by the tag. -/
def ccmEncrypt (key : Key) (nonce aad plaintext : Bytes) (tagLength : ℕ) : Bytes :=
  let out := ssl.ccmSeal key nonce aad (plaintext.copyN 0 plaintext.length) tagLength
  out.1.toList ++ out.2.toList

/-- `ccmDecrypt`: split off the tag at the end and open the rest under it. -/
def ccmDecrypt (key : Key) (nonce aad ciphertextWithTag : Bytes) (tagLength : ℕ) : Option Bytes :=
  if ciphertextWithTag.length < tagLength then none
  else
    let cipherLen := ciphertextWithTag.length - tagLength
    let cipher := ciphertextWithTag.copyN 0 cipherLen
    let tag := ciphertextWithTag.copyN cipherLen tagLength
    (ssl.ccmOpen key nonce aad cipher tag).map Vector.toList

variable {ssl}

/-- The ciphertext is as long as the plaintext and the tag together. -/
@[simp] theorem length_ccmEncrypt (key : Key) (nonce aad plaintext : Bytes) (tagLength : ℕ) :
    (ccmEncrypt ssl key nonce aad plaintext tagLength).length = plaintext.length + tagLength := by
  simp [ccmEncrypt]

/-- The plaintext is the data without the tag. -/
theorem length_ccmDecrypt {key : Key} {nonce aad data plaintext : Bytes} {tagLength : ℕ}
    (h : ccmDecrypt ssl key nonce aad data tagLength = some plaintext) :
    plaintext.length = data.length - tagLength := by
  unfold ccmDecrypt at h
  split at h
  · cases h
  · obtain ⟨out, -, rfl⟩ := Option.map_eq_some_iff.mp h
    exact Vector.length_toList

/-- The tag is what `ccmEncrypt` put at the end. -/
theorem ccmDecrypt_append (key : Key) (nonce aad : Bytes) {n tagLength : ℕ}
    (cipher : Vector UInt8 n) (tag : Vector UInt8 tagLength) :
    ccmDecrypt ssl key nonce aad (cipher.toList ++ tag.toList) tagLength =
      (ssl.ccmOpen key nonce aad cipher tag).map Vector.toList := by
  have hlen : (cipher.toList ++ tag.toList).length = n + tagLength := by simp
  unfold ccmDecrypt
  rw [if_neg (by omega)]
  generalize hk : (cipher.toList ++ tag.toList).length - tagLength = k
  obtain rfl : k = n := by omega
  have hcipher := Bytes.copyN_append [] cipher tag.toList
  have htag := Bytes.copyN_append cipher.toList tag []
  simp only [List.nil_append, List.append_nil, List.length_nil, Vector.length_toList]
    at hcipher htag
  simp only [hcipher, htag]

/-- Decryption undoes encryption under the same key, nonce and associated data. -/
theorem ccmDecrypt_ccmEncrypt (h : ssl.CcmInverse) (key : Key) (nonce aad plaintext : Bytes)
    (tagLength : ℕ) :
    ccmDecrypt ssl key nonce aad (ccmEncrypt ssl key nonce aad plaintext tagLength) tagLength =
      some plaintext := by
  rw [ccmEncrypt, ccmDecrypt_append, h.opens, Option.map_some, Bytes.toList_copyN]

end Crypto

/-! ## Network keys and key derivation -/

namespace NetworkKeys

/-- `NetworkKeys::Class`. -/
inductive Class
  /-- Included without DSK confirmation. -/
  | unauthenticated
  /-- DSK confirmed at inclusion. -/
  | authenticated
  /-- Locks. -/
  | accessControl
  /-- S0 traffic in an S2 network. -/
  | s0Compat
  deriving DecidableEq, Repr

/-- `NetworkKeys::KeySet`, and `keyFor` as its application. -/
abbrev KeySet := Class → Key

end NetworkKeys

/-- A 32-byte personalization string. -/
abbrev Personalization := Vector UInt8 32

namespace KeyDerivation

/-- `TempKeys`: the keys of the bootstrap's temporary channel. -/
structure TempKeys where
  /-- `keyCcm`. -/
  keyCcm : Key
  /-- `personalization`. -/
  personalization : Personalization
  deriving DecidableEq

/-- `NetworkKeys`: the keys derived from one network key. -/
structure NetworkKeys where
  /-- `keyCcm`. -/
  keyCcm : Key
  /-- `personalization`. -/
  personalization : Personalization
  /-- `keyMpan`. -/
  keyMpan : Key
  deriving DecidableEq

/-- One link of `ckdfExpand`: the constant and the index under the key, after the link before. -/
def ckdfLink (prk : Key) (previous : Bytes) (constByte index : UInt8) : Mac :=
  ssl.cmac prk (previous ++ (List.replicate 15 constByte ++ [index]))

/-- `tempExtract`. -/
def tempExtract (sharedSecret : SharedSecret) (controllerPublicKey nodePublicKey : PublicKey) :
    Key :=
  ssl.cmac (Vector.replicate 16 0x33)
    (sharedSecret.toList ++ (controllerPublicKey.toList ++ nodePublicKey.toList))

/-- `tempExpand`. -/
def tempExpand (prk : Key) : TempKeys :=
  let t1 := ckdfLink ssl prk [] 0x88 1
  let t2 := ckdfLink ssl prk t1.toList 0x88 2
  let t3 := ckdfLink ssl prk t2.toList 0x88 3
  { keyCcm := t1, personalization := t2 ++ t3 }

/-- `deriveTempKeys`. -/
def deriveTempKeys (sharedSecret : SharedSecret)
    (controllerPublicKey nodePublicKey : PublicKey) : TempKeys :=
  tempExpand ssl (tempExtract ssl sharedSecret controllerPublicKey nodePublicKey)

/-- `networkKeyExpand`. -/
def networkKeyExpand (networkKey : Key) : NetworkKeys :=
  let t1 := ckdfLink ssl networkKey [] 0x55 1
  let t2 := ckdfLink ssl networkKey t1.toList 0x55 2
  let t3 := ckdfLink ssl networkKey t2.toList 0x55 3
  let t4 := ckdfLink ssl networkKey t3.toList 0x55 4
  { keyCcm := t1, personalization := t2 ++ t3, keyMpan := t4 }

end KeyDerivation

/-! ## The singlecast pre-agreed nonce -/

/-- 16 bytes of entropy, a sender's (SEI) or a receiver's (REI). -/
abbrev EntropyInput := Vector UInt8 16

/-- The DRBG's working state, key and counter in a row. -/
abbrev InnerState := Vector UInt8 32

/-- The CCM nonce: the first 13 bytes of a DRBG output. -/
abbrev CcmNonce := Vector UInt8 13

/-- `SPAN::Span`: the working state of the AES-128 CTR DRBG. -/
structure Span where
  /-- `key_`. -/
  key : Key := Vector.replicate 16 0
  /-- `value_`. -/
  value : Block := Vector.replicate 16 0
  deriving DecidableEq, Repr

namespace Span

/-- The loop of `incrementCounter`, from byte `i - 1` down to the first without a carry. -/
def incrementFrom (counter : Block) : ℕ → Block
  | 0 => counter
  | i + 1 =>
    let byte := Bytes.byte counter.toList i + 1
    let counter := counter.setIfInBounds i byte
    if byte ≠ 0 then counter else incrementFrom counter i

/-- `incrementCounter`: a 16-byte big-endian counter. -/
def incrementCounter (counter : Block) : Block := incrementFrom counter 16

/-- `drbgUpdate`: two blocks of output, with the provided data added, are the new state. -/
def drbgUpdate (provided : InnerState) (s : Span) : Span :=
  let value1 := incrementCounter s.value
  let value2 := incrementCounter value1
  let temp : InnerState :=
    Vector.zipWith (· ^^^ ·) (ssl.aesEcb s.key value1 ++ ssl.aesEcb s.key value2) provided
  { key := Bytes.copyN temp.toList 0 16, value := Bytes.copyN temp.toList 16 16 }

/-- `mixEntropy`: the two entropy inputs mixed into 32 bytes. -/
def mixEntropy (senderEI receiverEI : EntropyInput) : Vector UInt8 32 :=
  let prk := ssl.cmac (Vector.replicate 16 0x26) (senderEI.toList ++ receiverEI.toList)
  let expandBlock (prev : Bytes) (counter : UInt8) : Mac :=
    ssl.cmac prk (prev ++ (List.replicate 15 0x88 ++ [counter]))
  let meiLow := expandBlock (List.replicate 15 0x88 ++ [0x00]) 0x01
  let meiHigh := expandBlock meiLow.toList 0x02
  meiLow ++ meiHigh

/-- `instantiate`: seed the DRBG with the mixed entropy and the personalization string. -/
def instantiate (senderEI receiverEI : EntropyInput) (personalization : Personalization) : Span :=
  drbgUpdate ssl (Vector.zipWith (· ^^^ ·) (mixEntropy ssl senderEI receiverEI) personalization) {}

/-- What `nextNonce` outputs: one block of the counter mode. -/
def output (s : Span) : Block := ssl.aesEcb s.key (incrementCounter s.value)

/-- What `nextNonce` leaves behind. -/
def advance (s : Span) : Span :=
  drbgUpdate ssl (Vector.replicate 32 0) { s with value := incrementCounter s.value }

/-- `nextNonce`: the next output, and the state after it. -/
def nextNonce (s : Span) : Block × Span := (output ssl s, advance ssl s)

/-- `SpanManager::truncatedNonce`: the 13 most significant bytes of the next output. -/
def truncatedNonce (s : Span) : CcmNonce × Span :=
  (Bytes.copyN (nextNonce ssl s).1.toList 0 13, (nextNonce ssl s).2)

/-- `serialize`. -/
def serialize (s : Span) : InnerState := s.key ++ s.value

/-- `deserialize`. -/
def deserialize (state : InnerState) : Span where
  key := Bytes.copyN state.toList 0 16
  value := Bytes.copyN state.toList 16 16

/-- A SPAN restored from its own export is the same SPAN. -/
@[simp] theorem deserialize_serialize (s : Span) : deserialize s.serialize = s := by
  have hkey := Bytes.copyN_append [] s.key s.value.toList
  have hvalue := Bytes.copyN_append s.key.toList s.value []
  simp only [List.nil_append, List.append_nil, List.length_nil, Vector.length_toList]
    at hkey hvalue
  simp only [deserialize, serialize, Vector.toList_append, hkey, hvalue]

end Span

end Zwaved.S2
