import Zwaved.S0.Encapsulation

/-!
# The round trip of S0, and what the MAC covers

AES-OFB is a keystream that is added to the data (`OfbKeystream`), so the same call encrypts and
decrypts, and what `encrypt` wraps `decrypt` unwraps. The CBC-MAC is over a message that
`Crypto.cbcMac` pads with zeros and that tells the length of the ciphertext by one byte. Neither
alone tells where the ciphertext ends; together they do, since the padding is shorter than a block
and the length byte is right up to a multiple of 256 (`paddedMessage_authData_injective`).
-/

namespace Zwaved.S0

/-- AES-OFB adds a keystream that depends on the key and the IV. -/
def OpenSsl.OfbKeystream (ssl : OpenSsl) : Prop :=
  ∀ key iv, ∃ keystream : ℕ → UInt8, ∀ input,
    ssl.aesOfb key iv input = input.mapIdx fun i byte => byte ^^^ keystream i

/-- The stand-in cipher has a keystream as OFB does. -/
theorem OpenSsl.standIn_ofbKeystream : OpenSsl.standIn.OfbKeystream := by
  intro key iv
  refine ⟨fun _ => 0, fun input => List.ext_getElem ?_ fun i _ _ => ?_⟩
  · simp [OpenSsl.standIn]
  · simp only [OpenSsl.standIn, List.getElem_mapIdx, UInt8.xor_zero]

namespace Crypto

variable {ssl : OpenSsl}

/-- OFB adds a keystream to the data that the key and the vector determine, whatever the data. -/
theorem exists_ofbCrypt_eq (h : ssl.OfbKeystream) (key : Key) (initVector : Block) :
    ∃ keystream : ℕ → UInt8, ∀ data,
      ofbCrypt ssl key initVector data = data.mapIdx fun i byte => byte ^^^ keystream i := by
  obtain ⟨keystream, hofb⟩ := h key initVector
  refine ⟨keystream, fun data => ?_⟩
  unfold ofbCrypt
  split
  · next hempty => rw [List.isEmpty_iff.mp hempty, List.mapIdx_nil]
  · exact hofb data

/-- OFB leaves the length of the data. -/
theorem length_ofbCrypt (h : ssl.OfbKeystream) (key : Key) (initVector : Block) (data : Bytes) :
    (ofbCrypt ssl key initVector data).length = data.length := by
  obtain ⟨keystream, hofb⟩ := exists_ofbCrypt_eq h key initVector
  rw [hofb, List.length_mapIdx]

/-- OFB undoes itself. -/
theorem ofbCrypt_ofbCrypt (h : ssl.OfbKeystream) (key : Key) (initVector : Block) (data : Bytes) :
    ofbCrypt ssl key initVector (ofbCrypt ssl key initVector data) = data := by
  obtain ⟨keystream, hofb⟩ := exists_ofbCrypt_eq h key initVector
  rw [hofb, hofb]
  refine List.ext_getElem ?_ fun i _ _ => ?_
  · rw [List.length_mapIdx, List.length_mapIdx]
  · simp only [List.getElem_mapIdx, UInt8.xor_assoc, UInt8.xor_self, UInt8.xor_zero]

end Crypto

namespace Encapsulation

variable {ssl : OpenSsl}

/-- `decrypt` on a frame laid out in its parts: it compares the MAC over the associated data and the
ciphertext, and drops the first byte of what it deciphers. -/
theorem decrypt_frame {ciphertext : Bytes} (hcipher : ciphertext ≠ [])
    (senderNodeId receiverNodeId : NodeId) (senderNonce ourNonce : Nonce) (networkKey : Key)
    (mac : Mac) :
    decrypt ssl ([Security.commandClass, Security.messageEncapsulation] ++ (senderNonce.toList ++
        (ciphertext ++ ([ourNonce.id] ++ (mac.toList ++ []))))) senderNodeId receiverNodeId ourNonce
        networkKey =
      if Crypto.cbcMac ssl (Crypto.deriveKeys ssl networkKey).authentication
          (authData senderNonce ourNonce senderNodeId receiverNodeId ciphertext) ≠ mac then none
      else
        match Crypto.ofbCrypt ssl (Crypto.deriveKeys ssl networkKey).encryption
            (makeIv senderNonce ourNonce) ciphertext with
        | [] => none
        | _ :: inner => some inner := by
  obtain ⟨frame, hframe⟩ : ∃ frame : Bytes, frame =
      [Security.commandClass, Security.messageEncapsulation] ++ (senderNonce.toList ++
        (ciphertext ++ ([ourNonce.id] ++ (mac.toList ++ [])))) := ⟨_, rfl⟩
  rw [← hframe]
  have hheader : headerSize = 10 := rfl
  have hoverhead : frameOverhead = 19 := rfl
  have hpos := List.length_pos_iff.mpr hcipher
  have hlength : frame.length - frameOverhead = ciphertext.length := by
    simp only [hframe, hoverhead, List.length_append, List.length_cons, List.length_nil,
      Vector.length_toList]
    omega
  have hlong : frameOverhead + 1 ≤ frame.length := by omega
  have hnonce : frame.copyN 2 8 = senderNonce :=
    hframe ▸ Bytes.copyN_append [Security.commandClass, Security.messageEncapsulation] senderNonce _
  -- The ciphertext stands behind the header, and the nonce id and the MAC behind the ciphertext.
  obtain ⟨header, hheaderBytes⟩ : ∃ header : Bytes, header =
      [Security.commandClass, Security.messageEncapsulation] ++ senderNonce.toList := ⟨_, rfl⟩
  have hheaderLength : header.length = headerSize := by simp [hheaderBytes, headerSize]
  have hcut : frame = header ++ (ciphertext ++ ([ourNonce[0]] ++ (mac.toList ++ []))) := by
    rw [hframe, hheaderBytes, List.append_assoc]
  have hspan : frame.subspan headerSize ciphertext.length = ciphertext := by
    rw [Bytes.subspan, hcut, ← hheaderLength, List.drop_left, List.take_left]
  have hid : frame.byte (headerSize + ciphertext.length) = ourNonce[0] := by
    have hbyte := Bytes.byte_append_right (header ++ ciphertext)
      ([ourNonce[0]] ++ (mac.toList ++ [])) 0
    rw [List.length_append, hheaderLength, List.append_assoc, ← hcut] at hbyte
    exact hbyte
  have hmac : frame.copyN (headerSize + ciphertext.length + 1) 8 = mac := by
    have hcopy := Bytes.copyN_append (header ++ ciphertext ++ [ourNonce[0]]) mac []
    rw [List.length_append, List.length_append, hheaderLength, List.append_assoc,
      List.append_assoc, ← hcut] at hcopy
    exact hcopy
  have hclass : frame.byte 0 = Security.commandClass := by rw [hframe]; rfl
  have hcommand : frame.byte 1 = Security.messageEncapsulation := by rw [hframe]; rfl
  rw [decrypt, if_neg (by rw [hclass, hcommand]; simp; omega)]
  dsimp only
  rw [hlength, hid, if_neg (not_not.mpr rfl), hnonce, hspan]
  subst hmac
  rfl

/-- What `encrypt` wraps under the receiver's nonce, `decrypt` unwraps with it. -/
theorem decrypt_encrypt (h : ssl.OfbKeystream) (inner : Bytes)
    (senderNodeId receiverNodeId : NodeId) (senderNonce receiverNonce : Nonce) (networkKey : Key) :
    decrypt ssl
        (encrypt ssl inner senderNodeId receiverNodeId senderNonce receiverNonce networkKey)
        senderNodeId receiverNodeId receiverNonce networkKey = some inner := by
  obtain ⟨ciphertext, hciphertext⟩ : ∃ ciphertext, ciphertext =
      Crypto.ofbCrypt ssl (Crypto.deriveKeys ssl networkKey).encryption
        (makeIv senderNonce receiverNonce) (sequenceSingle :: inner) := ⟨_, rfl⟩
  have hcipher : ciphertext ≠ [] := by
    rw [← List.length_pos_iff, hciphertext, Crypto.length_ofbCrypt h]
    exact Nat.succ_pos _
  have hframe := @decrypt_frame ssl _ hcipher senderNodeId receiverNodeId senderNonce
    receiverNonce networkKey
    (Crypto.cbcMac ssl (Crypto.deriveKeys ssl networkKey).authentication
      (authData senderNonce receiverNonce senderNodeId receiverNodeId ciphertext))
  rw [if_neg (not_not.mpr rfl), hciphertext, Crypto.ofbCrypt_ofbCrypt h] at hframe
  rw [encrypt]
  simpa [Nonce.id] using hframe

/-- The message under the MAC is the two nonces, the header, the ciphertext and the zeros that fill
the last block. -/
theorem paddedMessage_authData (senderNonce receiverNonce : Nonce)
    (senderNodeId receiverNodeId : NodeId) (ciphertext : Bytes) :
    ∃ count, Crypto.paddedMessage
        (authData senderNonce receiverNonce senderNodeId receiverNodeId ciphertext) =
      senderNonce.toList ++ (receiverNonce.toList ++
        ([Security.messageEncapsulation, senderNodeId, receiverNodeId,
          ciphertext.length.toUInt8] ++ (ciphertext ++ List.replicate count 0))) ∧
      count < 16 ∧ (20 + ciphertext.length + count) % 16 = 0 := by
  have hlength :
      (authData senderNonce receiverNonce senderNodeId receiverNodeId ciphertext).length =
        20 + ciphertext.length := by
    simp only [authData, List.length_append, List.length_cons, List.length_nil,
      Vector.length_toList]
  refine ⟨Crypto.paddedLength
      (authData senderNonce receiverNonce senderNodeId receiverNodeId ciphertext) -
    (authData senderNonce receiverNonce senderNodeId receiverNodeId ciphertext).length, ?_, ?_⟩
  · simp only [Crypto.paddedMessage, authData, List.append_assoc]
  · have hnonempty :
        (authData senderNonce receiverNonce senderNodeId receiverNodeId ciphertext).isEmpty =
          false := by simp [authData]
    rw [hlength, Crypto.paddedLength, hnonempty, if_neg Bool.false_ne_true, hlength]
    omega

/-- The padded message is a function of the nonces, the node ids and the ciphertext that tells them
apart. -/
theorem paddedMessage_authData_injective {senderNonce senderNonce' receiverNonce
      receiverNonce' : Nonce} {senderNodeId senderNodeId' receiverNodeId receiverNodeId' : NodeId}
    {ciphertext ciphertext' : Bytes}
    (h : Crypto.paddedMessage
        (authData senderNonce receiverNonce senderNodeId receiverNodeId ciphertext) =
      Crypto.paddedMessage
        (authData senderNonce' receiverNonce' senderNodeId' receiverNodeId' ciphertext')) :
    senderNonce = senderNonce' ∧ receiverNonce = receiverNonce' ∧ senderNodeId = senderNodeId' ∧
      receiverNodeId = receiverNodeId' ∧ ciphertext = ciphertext' := by
  obtain ⟨count, hmessage, hcount, hblocks⟩ := paddedMessage_authData senderNonce receiverNonce
    senderNodeId receiverNodeId ciphertext
  obtain ⟨count', hmessage', hcount', hblocks'⟩ := paddedMessage_authData senderNonce'
    receiverNonce' senderNodeId' receiverNodeId' ciphertext'
  rw [hmessage, hmessage'] at h
  obtain ⟨hsenderNonce, h⟩ := List.append_inj h (by simp)
  obtain ⟨hreceiverNonce, h⟩ := List.append_inj h (by simp)
  obtain ⟨hfields, h⟩ := List.append_inj h rfl
  simp only [List.cons.injEq, and_true, true_and] at hfields
  obtain ⟨hsender, hreceiver, hlength⟩ := hfields
  -- The lengths differ by less than a block, and by a multiple of 256.
  have htotal := congrArg List.length h
  simp only [List.length_append, List.length_replicate] at htotal
  have hbyte : ciphertext.length % 256 = ciphertext'.length % 256 := by
    have := congrArg UInt8.toNat hlength
    simpa [Nat.toUInt8_eq, UInt8.toNat_ofNat'] using this
  have hsame : ciphertext.length = ciphertext'.length := by omega
  obtain ⟨hciphertext, -⟩ := List.append_inj h hsame
  exact ⟨Vector.toList_inj.mp hsenderNonce, Vector.toList_inj.mp hreceiverNonce, hsender, hreceiver,
    hciphertext⟩

/-- S0 frames round-trip, the MAC is made from the last block of a CBC encryption of the padded
message, and the padded message determines what it is made from, for ciphertexts of any length. -/
theorem roundTrips_and_macInput_injective {ssl : OpenSsl} (h : ssl.OfbKeystream) :
    (∀ inner senderNodeId receiverNodeId senderNonce receiverNonce networkKey,
      decrypt ssl
          (encrypt ssl inner senderNodeId receiverNodeId senderNonce receiverNonce networkKey)
          senderNodeId receiverNodeId receiverNonce networkKey = some inner) ∧
      (∀ key data, Crypto.cbcMac ssl key data =
        Bytes.copyN (ssl.aesCbc key (Vector.replicate 16 0) (Crypto.paddedMessage data))
          (Crypto.paddedLength data - 16) 8) ∧
      Function.Injective fun input : Nonce × Nonce × NodeId × NodeId × Bytes =>
        Crypto.paddedMessage
          (authData input.1 input.2.1 input.2.2.1 input.2.2.2.1 input.2.2.2.2) := by
  refine ⟨decrypt_encrypt h, fun _ _ => rfl, ?_⟩
  rintro ⟨senderNonce, receiverNonce, senderNodeId, receiverNodeId, ciphertext⟩
    ⟨senderNonce', receiverNonce', senderNodeId', receiverNodeId', ciphertext'⟩ hsame
  obtain ⟨rfl, rfl, rfl, rfl, rfl⟩ := paddedMessage_authData_injective hsame
  rfl

/-- So a command under the stand-in, and two ciphertexts that zeros make as long. -/
theorem roundTrips_and_macInput_injective_standIn :
    decrypt OpenSsl.standIn (encrypt OpenSsl.standIn [0x62, 0x01, 0xFF] 1 5
        (Vector.replicate 8 3) (Vector.replicate 8 4) (Vector.replicate 16 7)) 1 5
        (Vector.replicate 8 4) (Vector.replicate 16 7) = some [0x62, 0x01, 0xFF] ∧
      Crypto.paddedMessage (authData (Vector.replicate 8 3) (Vector.replicate 8 4) 1 5 [9]) ≠
        Crypto.paddedMessage
          (authData (Vector.replicate 8 3) (Vector.replicate 8 4) 1 5 [9, 0]) := by
  obtain ⟨hroundTrips, -, hinjective⟩ :=
    roundTrips_and_macInput_injective OpenSsl.standIn_ofbKeystream
  refine ⟨hroundTrips _ _ _ _ _ _, fun hsame => ?_⟩
  have hinput := @hinjective (Vector.replicate 8 3, Vector.replicate 8 4, 1, 5, [9])
    (Vector.replicate 8 3, Vector.replicate 8 4, 1, 5, [9, 0]) hsame
  exact absurd (congrArg (fun input => input.2.2.2.2.length) hinput) (by decide)

end Encapsulation

end Zwaved.S0
