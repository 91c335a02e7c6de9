import Zwaved.Bytes

/-!
# S0 frames

The first-generation security layer: `Security.cpp`, the codec of the nonce commands;
`NonceTable.cpp`, the single-use nonces that this controller has issued; and `Encapsulation.cpp`,
which wraps an inner command under the one network key, with AES-OFB for secrecy and a CBC-MAC for
authenticity. The AES modes are OpenSSL's, `OpenSsl` is the record of those that `Crypto.cpp` calls.
-/

namespace Zwaved.S0

/-- An AES-128 key. -/
abbrev Key := Vector UInt8 16

/-- An AES block. -/
abbrev Block := Vector UInt8 16

/-- A truncated CBC-MAC. -/
abbrev Mac := Vector UInt8 8

/-- `S0::Nonce`. -/
abbrev Nonce := Vector UInt8 8

/-- The byte by which a frame names a nonce: the first. -/
abbrev Nonce.id (nonce : Nonce) : UInt8 := nonce[0]

/-- The OpenSSL ciphers that `Crypto.cpp` calls, without padding. -/
structure OpenSsl where
  /-- AES-128 of one block. -/
  aesEcb (key : Key) (input : Block) : Block
  /-- AES-128-OFB, a stream cipher. -/
  aesOfb (key : Key) (iv : Block) (input : Bytes) : Bytes
  /-- AES-128-CBC of whole blocks. -/
  aesCbc (key : Key) (iv : Block) (input : Bytes) : Bytes

/-- A stand-in for OpenSSL to evaluate the model with: AES and OFB are the identity, and CBC adds a
key byte to each byte. -/
def OpenSsl.standIn : OpenSsl where
  aesEcb _ input := input
  aesOfb _ _ input := input
  aesCbc key _ input := input.map (· + key[0])

/-- AES-OFB is a stream cipher: what comes out is as long as what goes in. -/
def OpenSsl.OfbStream (ssl : OpenSsl) : Prop :=
  ∀ key iv input, (ssl.aesOfb key iv input).length = input.length

/-- The stand-in cipher streams as OFB does. -/
theorem OpenSsl.standIn_ofbStream : OpenSsl.standIn.OfbStream := fun _ _ _ => rfl

/-! ## The codec -/

namespace Security

/-- `COMMAND_CLASS`. -/
def commandClass : UInt8 := 0x98

/-- `SECURITY_SCHEME_GET`. -/
def schemeGet : UInt8 := 0x04

/-- `SECURITY_SCHEME_REPORT`. -/
def schemeReport : UInt8 := 0x05

/-- `SECURITY_NETWORK_KEY_SET`. -/
def networkKeySet : UInt8 := 0x06

/-- `SECURITY_NETWORK_KEY_VERIFY`. -/
def networkKeyVerify : UInt8 := 0x07

/-- `SECURITY_NONCE_GET`. -/
def nonceGet : UInt8 := 0x40

/-- `SECURITY_NONCE_REPORT`. -/
def nonceReport : UInt8 := 0x80

/-- `SECURITY_MESSAGE_ENCAPSULATION`. -/
def messageEncapsulation : UInt8 := 0x81

/-- `encodeNonceGet`. -/
def encodeNonceGet : Bytes := [commandClass, nonceGet]

/-- `encodeNonceReport`. -/
def encodeNonceReport (nonce : Nonce) : Bytes := [commandClass, nonceReport] ++ nonce.toList

/-- `decodeNonceReport`. -/
def decodeNonceReport (payload : Bytes) : Option Nonce :=
  if payload.length ≠ 2 + 8 ∨ payload.byte 0 ≠ commandClass ∨ payload.byte 1 ≠ nonceReport then none
  else some (payload.copyN 2 8)

/-- `commandByte`: the command of an S0 frame. -/
def commandByte (payload : Bytes) : Option UInt8 :=
  if payload.length < 2 ∨ payload.byte 0 ≠ commandClass then none else some (payload.byte 1)

end Security

/-! ## The nonces -/

/-- A point on the steady clock, in nanoseconds. -/
abbrev Time := ℕ

/-- `NonceTable::Entry`. -/
structure NonceEntry where
  /-- `nonce`. -/
  nonce : Nonce
  /-- `issued`. -/
  issued : Time

/-- `NonceTable`: the nonces issued to each peer, by their first byte. -/
structure NonceTable where
  /-- `entries_`. -/
  entries : NodeId → UInt8 → Option NonceEntry := fun _ _ => none

namespace NonceTable

/-- `DEFAULT_FRESHNESS`: ten seconds. -/
def freshness : Time := 10000000000

/-- The table with one entry replaced. -/
def set (t : NonceTable) (peer : NodeId) (nonceId : UInt8) (entry : Option NonceEntry) :
    NonceTable where
  entries := Function.update t.entries peer (Function.update (t.entries peer) nonceId entry)

/-- `generate`, with the nonce that it draws. -/
def generate (t : NonceTable) (peer : NodeId) (now : Time) (nonce : Nonce) : NonceTable :=
  t.set peer nonce[0] (some { nonce, issued := now })

/-- `take`: a hit is consumed, fresh or not. -/
def take (t : NonceTable) (peer : NodeId) (nonceId : UInt8) (now : Time) :
    Option Nonce × NonceTable :=
  match t.entries peer nonceId with
  | none => (none, t)
  | some entry =>
    (if now - entry.issued > freshness then none else some entry.nonce, t.set peer nonceId none)

/-- An entry of the table after `generate` is the new one or was there. -/
theorem entries_generate {t : NonceTable} {peer other : NodeId} {now : Time} {nonce : Nonce}
    {nonceId : UInt8} {entry : NonceEntry}
    (h : (t.generate peer now nonce).entries other nonceId = some entry) :
    (other = peer ∧ entry.nonce = nonce) ∨ t.entries other nonceId = some entry := by
  unfold generate set at h
  dsimp only at h
  by_cases hpeer : other = peer
  · subst hpeer
    rw [Function.update_self] at h
    by_cases hid : nonceId = nonce[0]
    · subst hid
      rw [Function.update_self] at h
      obtain rfl := Option.some.inj h
      exact Or.inl ⟨rfl, rfl⟩
    · rw [Function.update_of_ne hid] at h
      exact Or.inr h
  · rw [Function.update_of_ne hpeer] at h
    exact Or.inr h

/-- An entry of the table after `take` was there before. -/
theorem entries_take {t : NonceTable} {peer other : NodeId} {taken nonceId : UInt8} {now : Time}
    {entry : NonceEntry} (h : (t.take peer taken now).2.entries other nonceId = some entry) :
    t.entries other nonceId = some entry := by
  unfold take at h
  cases hentry : t.entries peer taken with
  | none =>
    rw [hentry] at h
    exact h
  | some found =>
    rw [hentry] at h
    unfold set at h
    dsimp only at h
    by_cases hpeer : other = peer
    · subst hpeer
      rw [Function.update_self] at h
      by_cases hid : nonceId = taken
      · subst hid
        rw [Function.update_self] at h
        cases h
      · rwa [Function.update_of_ne hid] at h
    · rwa [Function.update_of_ne hpeer] at h

/-- A nonce that `take` gives out is in an entry of its peer and id. -/
theorem take_eq_some {t : NonceTable} {peer : NodeId} {nonceId : UInt8} {now : Time} {nonce : Nonce}
    (h : (t.take peer nonceId now).1 = some nonce) :
    ∃ entry, t.entries peer nonceId = some entry ∧ entry.nonce = nonce := by
  unfold take at h
  cases hentry : t.entries peer nonceId with
  | none => rw [hentry] at h; cases h
  | some entry =>
    rw [hentry] at h
    dsimp only at h
    split at h
    · cases h
    · exact ⟨entry, rfl, Option.some.inj h⟩

end NonceTable

/-! ## MESSAGE_ENCAPSULATION -/

variable (ssl : OpenSsl)

namespace Crypto

/-- `Crypto::DerivedKeys`. -/
structure DerivedKeys where
  /-- `encryption`. -/
  encryption : Key
  /-- `authentication`. -/
  authentication : Key

/-- `deriveKeys`: the network key on a block of `0xAA` and on a block of `0x55`. -/
def deriveKeys (networkKey : Key) : DerivedKeys where
  encryption := ssl.aesEcb networkKey (Vector.replicate 16 0xAA)
  authentication := ssl.aesEcb networkKey (Vector.replicate 16 0x55)

/-- `ofbCrypt`. -/
def ofbCrypt (key : Key) (initVector : Block) (data : Bytes) : Bytes :=
  if data.isEmpty then [] else ssl.aesOfb key initVector data

/-- The length of the message after zero padding. -/
def paddedLength (data : Bytes) : ℕ := if data.isEmpty then 16 else (data.length + 15) / 16 * 16

/-- `input` in `cbcMac`: the message, zero padded to whole blocks. -/
def paddedMessage (data : Bytes) : Bytes :=
  data ++ List.replicate (paddedLength data - data.length) 0

/-- `cbcMac`: the leading bytes of the last block of a CBC encryption. -/
def cbcMac (key : Key) (data : Bytes) : Mac :=
  Bytes.copyN (ssl.aesCbc key (Vector.replicate 16 0) (paddedMessage data))
    (paddedLength data - 16) 8

end Crypto

namespace Encapsulation

/-- `SEQUENCE_SINGLE`. -/
def sequenceSingle : UInt8 := 0x00

/-- `HEADER_SIZE`. -/
def headerSize : ℕ := 2 + 8

/-- `FRAME_OVERHEAD`. -/
def frameOverhead : ℕ := headerSize + (1 + 8)

/-- `makeIv`. -/
def makeIv (senderNonce receiverNonce : Nonce) : Block :=
  Bytes.copyN (senderNonce.toList ++ receiverNonce.toList) 0 16

/-- `authData`. -/
def authData (senderNonce receiverNonce : Nonce) (senderNodeId receiverNodeId : NodeId)
    (ciphertext : Bytes) : Bytes :=
  senderNonce.toList ++ receiverNonce.toList ++
    [Security.messageEncapsulation, senderNodeId, receiverNodeId, ciphertext.length.toUInt8] ++
    ciphertext

/-- `encrypt`. -/
def encrypt (inner : Bytes) (senderNodeId receiverNodeId : NodeId)
    (senderNonce receiverNonce : Nonce) (networkKey : Key) : Bytes :=
  let keys := Crypto.deriveKeys ssl networkKey
  let ciphertext := Crypto.ofbCrypt ssl keys.encryption (makeIv senderNonce receiverNonce)
    (sequenceSingle :: inner)
  let mac := Crypto.cbcMac ssl keys.authentication
    (authData senderNonce receiverNonce senderNodeId receiverNodeId ciphertext)
  [Security.commandClass, Security.messageEncapsulation] ++ senderNonce.toList ++ ciphertext ++
    [receiverNonce[0]] ++ mac.toList

/-- `decrypt`: the inner command, when the nonce is ours and the MAC is right. -/
def decrypt (frame : Bytes) (senderNodeId receiverNodeId : NodeId) (ourNonce : Nonce)
    (networkKey : Key) : Option Bytes :=
  if frame.length < frameOverhead + 1 ∨ frame.byte 0 ≠ Security.commandClass ∨
      frame.byte 1 ≠ Security.messageEncapsulation then none
  else
    let senderNonce : Nonce := frame.copyN 2 8
    let cipherLen := frame.length - frameOverhead
    let ciphertext := frame.subspan headerSize cipherLen
    let nonceId := frame.byte (headerSize + cipherLen)
    let mac : Mac := frame.copyN (headerSize + cipherLen + 1) 8
    if nonceId ≠ ourNonce[0] then none
    else
      let keys := Crypto.deriveKeys ssl networkKey
      let expected := Crypto.cbcMac ssl keys.authentication
        (authData senderNonce ourNonce senderNodeId receiverNodeId ciphertext)
      if expected ≠ mac then none
      else
        match Crypto.ofbCrypt ssl keys.encryption (makeIv senderNonce ourNonce) ciphertext with
        | [] => none
        | _ :: inner => some inner

variable {ssl}

/-- The inner command is shorter than the frame. -/
theorem length_decrypt (hofb : ssl.OfbStream) {frame inner : Bytes}
    {senderNodeId receiverNodeId : NodeId} {ourNonce : Nonce} {networkKey : Key}
    (h : decrypt ssl frame senderNodeId receiverNodeId ourNonce networkKey = some inner) :
    inner.length < frame.length := by
  unfold decrypt at h
  split at h
  · cases h
  next hshort =>
  have hlen : ¬ frame.length < frameOverhead + 1 := fun hlt => hshort (Or.inl hlt)
  dsimp only at h
  split at h
  · cases h
  split at h
  · cases h
  split at h
  · cases h
  next tail hplain =>
  obtain rfl := Option.some.inj h
  have hcipher := Bytes.length_subspan_le frame headerSize (frame.length - frameOverhead)
  have hplainLen := congrArg List.length hplain
  rw [Crypto.ofbCrypt] at hplainLen
  split at hplainLen
  · cases hplainLen
  · rw [hofb, List.length_cons] at hplainLen
    omega

end Encapsulation

end Zwaved.S0
