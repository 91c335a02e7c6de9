import Zwaved.Reads
import Zwaved.S2.Kex
import Zwaved.S2.SpanManager

/-!
# The reads of the S2 codecs

The other modules read a byte of a frame by `Bytes.byte`, which is zero past the end. Here the
codecs are written once more with the reads of `Reads`, which fail there, each read in the place
where the source makes it. A codec checks the length of a frame before it reads, so the reads
succeed and the result is that of the other model; each function has a theorem that says so. They
are what the handlers of `FrameBounds` are made of, and there it is not always so.
-/

namespace Zwaved.S2.Checked

/-- The test that the codecs start with: a condition on the length, then the class, then the
command. -/
def hasHeader (data : Bytes) (fits : Bool) (commandClass command : UInt8) : Read Bool :=
  if fits then do
    if (← data.readAt 0) = commandClass then return decide ((← data.readAt 1) = command)
    else return false
  else return false

/-- Where the condition leaves two bytes, the test reads nothing else. -/
theorem hasHeader_eq {data : Bytes} {fits : Bool} (h : fits = true → 2 ≤ data.length)
    (commandClass command : UInt8) :
    hasHeader data fits commandClass command =
      .ok (decide (fits = true ∧ data.byte 0 = commandClass ∧ data.byte 1 = command)) := by
  unfold hasHeader
  cases fits with
  | false => rfl
  | true =>
    have hlength := h rfl
    rw [Bytes.readAt_of_lt (by omega), Bytes.readAt_of_lt (by omega)]
    by_cases hclass : data.byte 0 = commandClass <;> simp [hclass]

/-- A codec that starts with the test of the header, and reads nothing past the length that the test
leaves, is the codec that starts with the negated test. -/
theorem codec_eq {α : Type} {payload : Bytes} {fits refused : Prop} [Decidable fits]
    [Decidable refused] {commandClass command : UInt8} (hfits : fits → 2 ≤ payload.length)
    (hrefused : refused ↔
      ¬ (fits ∧ payload.byte 0 = commandClass ∧ payload.byte 1 = command))
    {body : Read (Option α)} {decoded : Option α} (hbody : fits → body = .ok decoded) :
    (do
      if ← hasHeader payload (decide fits) commandClass command then body
      else return none : Read (Option α)) = .ok (if refused then none else decoded) := by
  rw [hasHeader_eq fun h => hfits (of_decide_eq_true h)]
  simp only [Read.ok_bind, decide_eq_true_eq, Read.pure_eq_ok]
  by_cases hall : fits ∧ payload.byte 0 = commandClass ∧ payload.byte 1 = command
  · rw [if_pos hall, if_neg (hrefused.not.mpr (not_not.mpr hall))]
    exact hbody hall.1
  · rw [if_neg hall, if_pos (hrefused.mpr hall)]

/-- `commandByte`. -/
def commandByte (payload : Bytes) : Read (Option UInt8) :=
  if payload.length < 2 then return none
  else do
    if (← payload.readAt 0) ≠ securityTwo then return none
    else return some (← payload.readAt 1)

/-- With checked reads, the command byte is read inside every payload, with the same result. -/
theorem commandByte_eq (payload : Bytes) : commandByte payload = .ok (S2.commandByte payload) := by
  unfold commandByte S2.commandByte NonceSync.commandByte
  have hsame : NonceSync.commandClass = securityTwo := rfl
  by_cases hshort : payload.length < 2
  · simp [hshort]
  · rw [Bytes.readAt_of_lt (by omega), Bytes.readAt_of_lt (by omega), hsame]
    by_cases hclass : payload.byte 0 = securityTwo <;> simp [hshort, hclass]

/-! ## Extensions -/

/-- The loop of `findSpanExtension`. -/
def findSpanExtensionFrom (extensions : Bytes) (offset : ℕ) : Read (Option EntropyInput) :=
  if offset + 2 ≤ extensions.length then do
    let length := (← extensions.readAt offset).toNat
    if _h : length < 2 ∨ offset + length > extensions.length then return none
    else
      let flags ← extensions.readAt (offset + 1)
      if flags &&& NonceSync.extTypeMask = NonceSync.spanExtensionType ∧
          length = NonceSync.spanExtensionLength.toNat then
        return some (← extensions.readN (offset + 2) 16)
      else if flags &&& NonceSync.extMoreFollowBit = 0 then return none
      else findSpanExtensionFrom extensions (offset + length)
  else return none
termination_by extensions.length - offset

/-- `findSpanExtension`. -/
def findSpanExtension (extensions : Bytes) : Read (Option EntropyInput) :=
  findSpanExtensionFrom extensions 0

/-- With checked reads, the search for a SPAN extension stays inside every chain, with the same
result. -/
theorem findSpanExtension_eq (extensions : Bytes) :
    findSpanExtension extensions = .ok (NonceSync.findSpanExtension extensions) := by
  suffices hfrom : ∀ offset, findSpanExtensionFrom extensions offset =
      .ok (NonceSync.findSpanExtensionFrom extensions offset) from hfrom 0
  intro offset
  -- The induction is on what is left of the span: each extension ends within it.
  induction hleft : extensions.length - offset using Nat.strongRecOn generalizing offset with
  | _ left ih =>
    rw [findSpanExtensionFrom, NonceSync.findSpanExtensionFrom]
    by_cases hfits : offset + 2 ≤ extensions.length
    · rw [if_pos hfits, if_pos hfits, Bytes.readAt_of_lt (by omega), Bytes.readAt_of_lt (by omega)]
      simp only [Read.ok_bind, Read.pure_eq_ok]
      generalize hlength : (extensions.byte offset).toNat = length
      by_cases hmalformed : length < 2 ∨ offset + length > extensions.length
      · rw [dif_pos hmalformed, dif_pos hmalformed]
      · rw [dif_neg hmalformed, dif_neg hmalformed]
        by_cases hspan : extensions.byte (offset + 1) &&& NonceSync.extTypeMask =
            NonceSync.spanExtensionType ∧ length = NonceSync.spanExtensionLength.toNat
        · -- A SPAN extension is 18 bytes long, and these are in the span.
          have hsize : length = 18 := hspan.2
          rw [if_pos hspan, if_pos hspan, Bytes.readN_of_le (by omega)]
          rfl
        · rw [if_neg hspan, if_neg hspan]
          split
          · rfl
          · exact ih _ (by omega) _ rfl
    · rw [if_neg hfits, if_neg hfits]
      rfl

/-- The loop of `extensionsLength`. -/
def extensionsLengthFrom (data : Bytes) (offset : ℕ) : Read (Option ℕ) :=
  if offset + 2 > data.length then return none
  else do
    let extLen := (← data.readAt offset).toNat
    if _h : extLen < 2 ∨ offset + extLen > data.length then return none
    else if (← data.readAt (offset + 1)) &&& Encapsulation.extMoreToFollow = 0 then
      return some (offset + extLen)
    else extensionsLengthFrom data (offset + extLen)
termination_by data.length - offset

/-- `extensionsLength`. -/
def extensionsLength (data : Bytes) : Read (Option ℕ) := extensionsLengthFrom data 0

/-- With checked reads, the length of the extensions is computed inside every frame, with the same
result. -/
theorem extensionsLength_eq (data : Bytes) :
    extensionsLength data = .ok (Encapsulation.extensionsLength data) := by
  suffices hfrom : ∀ offset, extensionsLengthFrom data offset =
      .ok (Encapsulation.extensionsLengthFrom data offset) from hfrom 0
  intro offset
  induction hleft : data.length - offset using Nat.strongRecOn generalizing offset with
  | _ left ih =>
    rw [extensionsLengthFrom, Encapsulation.extensionsLengthFrom]
    by_cases hends : offset + 2 > data.length
    · rw [if_pos hends, if_pos hends]
      rfl
    · rw [if_neg hends, if_neg hends, Bytes.readAt_of_lt (by omega), Bytes.readAt_of_lt (by omega)]
      simp only [Read.ok_bind, Read.pure_eq_ok]
      generalize hlength : (data.byte offset).toNat = extLen
      by_cases hmalformed : extLen < 2 ∨ offset + extLen > data.length
      · rw [dif_pos hmalformed, dif_pos hmalformed]
      · rw [dif_neg hmalformed, dif_neg hmalformed]
        split
        · rfl
        · exact ih _ (by omega) _ rfl

/-! ## Encapsulation -/

variable (ssl : OpenSsl)

/-- `ccmDecrypt`: the two parts of the ciphertext are copied out. -/
def ccmDecrypt (key : Key) (nonce aad ciphertextWithTag : Bytes) (tagLength : ℕ) :
    Read (Option Bytes) :=
  if ciphertextWithTag.length < tagLength then return none
  else do
    let cipherLen := ciphertextWithTag.length - tagLength
    let cipher ← ciphertextWithTag.readN 0 cipherLen
    let tag ← ciphertextWithTag.readN cipherLen tagLength
    return (ssl.ccmOpen key nonce aad cipher tag).map Vector.toList

/-- With checked reads, the decryption takes the ciphertext and the tag from inside their buffer,
for every length of the two. -/
theorem ccmDecrypt_eq (key : Key) (nonce aad ciphertextWithTag : Bytes) (tagLength : ℕ) :
    ccmDecrypt ssl key nonce aad ciphertextWithTag tagLength =
      .ok (Crypto.ccmDecrypt ssl key nonce aad ciphertextWithTag tagLength) := by
  unfold ccmDecrypt Crypto.ccmDecrypt
  by_cases hshort : ciphertextWithTag.length < tagLength
  · rw [if_pos hshort, if_pos hshort]
    rfl
  · rw [if_neg hshort, if_neg hshort]
    dsimp only
    rw [Bytes.readN_of_le (by omega), Bytes.readN_of_le (by omega)]
    rfl

/-- How many bytes of extensions stand in the clear. -/
def clearExtensions (props : UInt8) (frame : Bytes) : Read (Option ℕ) :=
  if props &&& Encapsulation.propExt ≠ 0 then do
    extensionsLength (← frame.readFrom Encapsulation.headerSize)
  else return some 0

/-- The plaintext without the encrypted extensions at its front. -/
def stripEncrypted (props : UInt8) (plaintext : Bytes) : Read (Option Bytes) :=
  if props &&& Encapsulation.propEncExt ≠ 0 then do
    match ← extensionsLength plaintext with
    | none => return none
    | some length =>
      if length > plaintext.length then return none else return some (← plaintext.readFrom length)
  else return some plaintext

/-- With checked reads, the encrypted extensions are stripped inside every plaintext, with the same
result. -/
theorem stripEncrypted_eq (props : UInt8) (plaintext : Bytes) :
    stripEncrypted props plaintext = .ok (Encapsulation.stripEncrypted props plaintext) := by
  unfold stripEncrypted Encapsulation.stripEncrypted
  by_cases hprops : props &&& Encapsulation.propEncExt ≠ 0
  · rw [if_pos hprops, if_pos hprops, extensionsLength_eq]
    simp only [Read.ok_bind, Read.pure_eq_ok]
    cases Encapsulation.extensionsLength plaintext with
    | none => rfl
    | some length =>
      simp only [Option.bind_some]
      by_cases hlong : length > plaintext.length
      · rw [if_pos hlong, if_pos hlong]
      · rw [if_neg hlong, if_neg hlong, Bytes.readFrom_of_le (by omega)]
        rfl
  · rw [if_neg hprops, if_neg hprops]
    rfl

/-- `decrypt`. -/
def decrypt (frame : Bytes) (context : Encapsulation.Context) (classKey : Key) (nonce : CcmNonce) :
    Read (Option Bytes) := do
  if ← hasHeader frame (Encapsulation.headerSize + Encapsulation.tagSize ≤ frame.length)
      Encapsulation.commandClass Encapsulation.messageEncapsulation then
    let sequenceNumber ← frame.readAt 2
    let props ← frame.readAt 3
    match ← clearExtensions props frame with
    | none => return none
    | some extBytes =>
      let cipherStart := Encapsulation.headerSize + extBytes
      if cipherStart + Encapsulation.tagSize > frame.length then return none
      else
        let aad := Encapsulation.buildAad context sequenceNumber props
          (← frame.readSpan Encapsulation.headerSize extBytes) frame.length
        match ← ccmDecrypt ssl classKey nonce.toList aad (← frame.readFrom cipherStart)
            Encapsulation.tagSize with
        | none => return none
        | some plaintext => stripEncrypted props plaintext
  else return none

/-- `decrypt` reads nothing past the end of the frame. -/
theorem decrypt_eq (frame : Bytes) (context : Encapsulation.Context) (classKey : Key)
    (nonce : CcmNonce) :
    decrypt ssl frame context classKey nonce =
      .ok (Encapsulation.decrypt ssl frame context classKey nonce) := by
  have hheader : Encapsulation.headerSize = 4 := rfl
  have htag : Encapsulation.tagSize = 8 := rfl
  unfold decrypt Encapsulation.decrypt
  -- Past the guard of the source the frame is long enough for each read of the header.
  refine codec_eq (by omega) (by simp only [not_and_or, Nat.not_le, ne_eq]) fun hlong => ?_
  rw [Bytes.readAt_of_lt (by omega), Bytes.readAt_of_lt (by omega)]
  simp only [Read.ok_bind, Read.pure_eq_ok]
  have hclear : clearExtensions (frame.byte 3) frame =
      .ok (Encapsulation.clearExtensions (frame.byte 3) (frame.drop Encapsulation.headerSize)) := by
    unfold clearExtensions Encapsulation.clearExtensions
    rw [Bytes.readFrom_of_le (by omega)]
    simp only [Read.ok_bind, extensionsLength_eq, Read.pure_eq_ok]
    split <;> rfl
  rw [hclear]
  simp only [Read.ok_bind]
  -- The chain of the extensions ends within the frame, or there is nothing to decrypt.
  cases Encapsulation.clearExtensions (frame.byte 3) (frame.drop Encapsulation.headerSize) with
  | none => rfl
  | some extBytes =>
    simp only [Option.bind_some]
    by_cases hshort : Encapsulation.headerSize + extBytes + Encapsulation.tagSize > frame.length
    · rw [if_pos hshort, if_pos hshort]
    · rw [if_neg hshort, if_neg hshort, Bytes.readSpan_of_le (by omega),
        Bytes.readFrom_of_le (by omega)]
      simp only [Read.ok_bind, ccmDecrypt_eq]
      cases Crypto.ccmDecrypt ssl classKey nonce.toList _ _ Encapsulation.tagSize with
      | none => rfl
      | some plaintext => exact stripEncrypted_eq (frame.byte 3) plaintext

/-! ## Nonces -/

/-- The SPAN that the extension of a frame makes, in `receiveNonce`. -/
def announcedSpan (p : Peer) (frame : Bytes) : Read (Option Span) := do
  if ← hasHeader frame (4 ≤ frame.length) NonceSync.commandClass
      Encapsulation.messageEncapsulation then
    if (← frame.readAt 3) &&& 0x01 ≠ 0 then
      match p.ourRei with
      | none => return none
      | some rei =>
        match ← findSpanExtension (← frame.readFrom 4) with
        | none => return none
        | some sei => return some (Span.instantiate ssl sei rei p.config.personalization)
    else return none
  else return none

/-- With checked reads, the SPAN that a frame announces is read inside the frame, with the same
result. -/
theorem announcedSpan_eq (p : Peer) (frame : Bytes) :
    announcedSpan ssl p frame = .ok (p.announcedSpan ssl frame) := by
  unfold announcedSpan Peer.announcedSpan
  rw [hasHeader_eq (by simp only [decide_eq_true_eq]; omega)]
  simp only [Read.ok_bind, decide_eq_true_eq]
  by_cases hframe : 4 ≤ frame.length ∧ frame.byte 0 = NonceSync.commandClass ∧
      frame.byte 1 = Encapsulation.messageEncapsulation
  -- The header is there, so that the byte of the flags can be read.
  · have hlong := hframe.1
    rw [if_pos hframe, Bytes.readAt_of_lt (by omega), Bytes.readFrom_of_le hframe.1]
    simp only [Read.ok_bind, findSpanExtension_eq, Read.pure_eq_ok]
    by_cases hflag : frame.byte 3 &&& 0x01 ≠ 0
    · have hannounces : Peer.AnnouncesExtensions frame :=
        ⟨hframe.1, hframe.2.1, hframe.2.2, hflag⟩
      rw [if_pos hflag, if_pos hannounces]
      cases p.ourRei with
      -- Without our own REI nothing is announced, whatever the extension says.
      | none => rfl
      | some rei => cases NonceSync.findSpanExtension (frame.drop 4) <;> rfl
    · have hnone : ¬ Peer.AnnouncesExtensions frame := fun h => hflag h.2.2.2
      rw [if_neg hflag, if_neg hnone]
  · have hnone : ¬ Peer.AnnouncesExtensions frame := fun h => hframe ⟨h.1, h.2.1, h.2.2.1⟩
    rw [if_neg hframe, if_neg hnone]
    rfl

/-- `receiveNonce`. -/
def receiveNonce (m : SpanManager) (peer : NodeId) (frame : Bytes) :
    Read (Option CcmNonce × SpanManager) := do
  let p := match ← announcedSpan ssl (m.peers peer) frame with
    | some span => { m.peers peer with span := some span, ourRei := none }
    | none => m.peers peer
  match p.span with
  | none => return (none, m.set peer p)
  | some span =>
    let (nonce, span) := span.truncatedNonce ssl
    return (some nonce, m.set peer { p with span := some span })

/-- `receiveNonce` reads nothing past the end of the frame. -/
theorem receiveNonce_eq (m : SpanManager) (peer : NodeId) (frame : Bytes) :
    receiveNonce ssl m peer frame = .ok (m.receiveNonce ssl peer frame) := by
  unfold receiveNonce SpanManager.receiveNonce Peer.receiveNonce Peer.receiveSpan
  rw [announcedSpan_eq]
  simp only [Read.ok_bind, Read.pure_eq_ok]
  cases (m.peers peer).announcedSpan ssl frame with
  | none => cases (m.peers peer).span <;> rfl
  | some span => rfl

/-! ## The codecs of the key exchange -/

/-- `Kex::decodeReport`. -/
def decodeReport (payload : Bytes) : Read (Option Kex.Report) := do
  if ← hasHeader payload (6 ≤ payload.length) securityTwo Kex.kexReport then
    return some
      { echo := (← payload.readAt 2) &&& Kex.propEcho ≠ 0
        requestCsa := (← payload.readAt 2) &&& Kex.propRequestCsa ≠ 0
        supportedSchemes := ← payload.readAt 3
        supportedCurves := ← payload.readAt 4
        requestedKeys := ← payload.readAt 5 }
  else return none

/-- `Kex::decodeSet`. -/
def decodeSet (payload : Bytes) : Read (Option Kex.Set) := do
  if ← hasHeader payload (6 ≤ payload.length) securityTwo Kex.kexSet then
    return some
      { echo := (← payload.readAt 2) &&& Kex.propEcho ≠ 0
        requestCsa := (← payload.readAt 2) &&& Kex.propRequestCsa ≠ 0
        selectedScheme := ← payload.readAt 3
        selectedCurve := ← payload.readAt 4
        grantedKeys := ← payload.readAt 5 }
  else return none

/-- `PublicKey::decode`. -/
def decodePublicKey (payload : Bytes) : Read (Option PublicKey.Report) := do
  if ← hasHeader payload (payload.length = 3 + 32) securityTwo PublicKey.publicKeyReport then
    return some
      { includingNode := (← payload.readAt 2) &&& PublicKey.propIncludingNode ≠ 0
        key := ← payload.readN 3 32 }
  else return none

/-- `KeyInstall::decodeKeyGet`. -/
def decodeKeyGet (payload : Bytes) : Read (Option UInt8) := do
  if ← hasHeader payload (3 ≤ payload.length) securityTwo KeyInstall.networkKeyGet then
    return some (← payload.readAt 2)
  else return none

/-- `KeyInstall::decodeTransferEnd`. -/
def decodeTransferEnd (payload : Bytes) : Read (Option KeyInstall.TransferEnd) := do
  if ← hasHeader payload (3 ≤ payload.length) securityTwo KeyInstall.transferEnd then
    return some
      { keyVerified := (← payload.readAt 2) &&& KeyInstall.transferKeyVerified ≠ 0
        keyRequestComplete :=
          (← payload.readAt 2) &&& KeyInstall.transferKeyRequestComplete ≠ 0 }
  else return none

/-- With checked reads, a KEX_REPORT is decoded inside every payload, with the same result. -/
theorem decodeReport_eq (payload : Bytes) :
    decodeReport payload = .ok (Kex.decodeReport payload) := by
  unfold decodeReport Kex.decodeReport
  refine codec_eq (by omega) (by simp only [not_and_or, Nat.not_le, ne_eq]) fun hlength => ?_
  rw [Bytes.readAt_of_lt (show 2 < payload.length by omega),
    Bytes.readAt_of_lt (show 3 < payload.length by omega),
    Bytes.readAt_of_lt (show 4 < payload.length by omega),
    Bytes.readAt_of_lt (show 5 < payload.length by omega)]
  rfl

/-- With checked reads, a KEX_SET is decoded inside every payload, with the same result. -/
theorem decodeSet_eq (payload : Bytes) : decodeSet payload = .ok (Kex.decodeSet payload) := by
  unfold decodeSet Kex.decodeSet
  refine codec_eq (by omega) (by simp only [not_and_or, Nat.not_le, ne_eq]) fun hlength => ?_
  rw [Bytes.readAt_of_lt (show 2 < payload.length by omega),
    Bytes.readAt_of_lt (show 3 < payload.length by omega),
    Bytes.readAt_of_lt (show 4 < payload.length by omega),
    Bytes.readAt_of_lt (show 5 < payload.length by omega)]
  rfl

/-- With checked reads, a public key report is decoded inside every payload, with the same
result. -/
theorem decodePublicKey_eq (payload : Bytes) :
    decodePublicKey payload = .ok (PublicKey.decode payload) := by
  unfold decodePublicKey PublicKey.decode
  refine codec_eq (by omega) (by simp only [not_and_or, ne_eq]) fun hlength => ?_
  rw [Bytes.readAt_of_lt (by omega), Bytes.readN_of_le (by omega)]
  rfl

/-- With checked reads, a key request is decoded inside every payload, with the same result. -/
theorem decodeKeyGet_eq (payload : Bytes) :
    decodeKeyGet payload = .ok (KeyInstall.decodeKeyGet payload) := by
  unfold decodeKeyGet KeyInstall.decodeKeyGet
  refine codec_eq (by omega) (by simp only [not_and_or, Nat.not_le, ne_eq]) fun hlength => ?_
  rw [Bytes.readAt_of_lt (by omega)]
  rfl

/-- With checked reads, the end of a transfer is decoded inside every payload, with the same
result. -/
theorem decodeTransferEnd_eq (payload : Bytes) :
    decodeTransferEnd payload = .ok (KeyInstall.decodeTransferEnd payload) := by
  unfold decodeTransferEnd KeyInstall.decodeTransferEnd
  refine codec_eq (by omega) (by simp only [not_and_or, Nat.not_le, ne_eq]) fun hlength => ?_
  rw [Bytes.readAt_of_lt (by omega)]
  rfl

end Zwaved.S2.Checked
