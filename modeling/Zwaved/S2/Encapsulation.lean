import Zwaved.S2.NonceSync

/-!
# The S2 encapsulation

`Encapsulation.cpp`: MESSAGE_ENCAPSULATION wraps an inner command under a class key. Ahead of the
ciphertext stand extensions in the clear, the associated data binds them with the two node ids, the
home id, the frame's length and its sequence byte, and further extensions may ride inside the
ciphertext, ahead of the inner command. `authenticated` is what `decrypt` cuts out of a frame for
CCM to open, and `decrypt_encrypt_extensions` is the round trip.
-/

namespace Zwaved.S2.Encapsulation

/-- `CC_SECURITY_2`. -/
def commandClass : UInt8 := 0x9F

/-- `CMD_ENCAP`. -/
def messageEncapsulation : UInt8 := 0x03

/-- `PROP_EXT`: extensions in the clear are present. -/
def propExt : UInt8 := 0x01

/-- `PROP_ENC_EXT`: encrypted extensions are present. -/
def propEncExt : UInt8 := 0x02

/-- `EXT_MORE_TO_FOLLOW`. -/
def extMoreToFollow : UInt8 := 0x80

/-- `HEADER_SIZE`: class, command, sequence number and properties. -/
def headerSize : ℕ := 4

/-- `TAG_SIZE`. -/
def tagSize : ℕ := 8

/-- `Encapsulation::Context`: what the associated data binds. -/
structure Context where
  /-- `senderNodeId`. -/
  senderNodeId : NodeId
  /-- `receiverNodeId`. -/
  receiverNodeId : NodeId
  /-- `homeId`. -/
  homeId : HomeId
  /-- `sequenceNumber`. -/
  sequenceNumber : UInt8
  deriving DecidableEq, Repr

/-- The loop of `extensionsLength`, from `offset` on. -/
def extensionsLengthFrom (data : Bytes) (offset : ℕ) : Option ℕ :=
  if offset + 2 > data.length then none
  else
    let extLen := (data.byte offset).toNat
    if _h : extLen < 2 ∨ offset + extLen > data.length then none
    else if data.byte (offset + 1) &&& extMoreToFollow = 0 then some (offset + extLen)
    else extensionsLengthFrom data (offset + extLen)
termination_by data.length - offset

/-- `extensionsLength`: the length of the chain of extensions at the head of `data`. -/
def extensionsLength (data : Bytes) : Option ℕ := extensionsLengthFrom data 0

/-- `buildAad`. -/
def buildAad (ctx : Context) (sequenceNumber props : UInt8) (extensions : Bytes)
    (frameLength : ℕ) : Bytes :=
  [ctx.senderNodeId, ctx.receiverNodeId] ++ (ctx.homeId.toList ++
    ([((frameLength >>> 8) &&& 0xFF).toUInt8, (frameLength &&& 0xFF).toUInt8, sequenceNumber,
      props] ++ extensions))

variable (ssl : OpenSsl)

/-- `encrypt`. -/
def encrypt (inner : Bytes) (context : Context) (classKey : Key) (nonce : CcmNonce)
    (nonEncryptedExtensions : Bytes := []) (encryptedExtensions : Bytes := []) : Bytes :=
  let props : UInt8 := if nonEncryptedExtensions.isEmpty then 0x00 else propExt
  let props := if encryptedExtensions.isEmpty then props else props ||| propEncExt
  let plaintext := encryptedExtensions ++ inner
  let frameLength := headerSize + nonEncryptedExtensions.length + plaintext.length + tagSize
  let aad := buildAad context context.sequenceNumber props nonEncryptedExtensions frameLength
  let ciphertext := Crypto.ccmEncrypt ssl classKey nonce.toList aad plaintext tagSize
  [commandClass, messageEncapsulation, context.sequenceNumber, props] ++
    (nonEncryptedExtensions ++ ciphertext)

/-- How many bytes of extensions stand in the clear, by the properties byte. -/
def clearExtensions (props : UInt8) (body : Bytes) : Option ℕ :=
  if props &&& propExt ≠ 0 then extensionsLength body else some 0

/-- The plaintext without the encrypted extensions at its front. -/
def stripEncrypted (props : UInt8) (plaintext : Bytes) : Option Bytes :=
  if props &&& propEncExt ≠ 0 then
    (extensionsLength plaintext).bind fun length =>
      if length > plaintext.length then none else some (plaintext.drop length)
  else some plaintext

/-- `decrypt`. The sequence number of the associated data is the frame's own. -/
def decrypt (frame : Bytes) (context : Context) (classKey : Key) (nonce : CcmNonce) :
    Option Bytes :=
  if frame.length < headerSize + tagSize ∨ frame.byte 0 ≠ commandClass ∨
      frame.byte 1 ≠ messageEncapsulation then none
  else
    let sequenceNumber := frame.byte 2
    let props := frame.byte 3
    (clearExtensions props (frame.drop headerSize)).bind fun extBytes =>
      let cipherStart := headerSize + extBytes
      if cipherStart + tagSize > frame.length then none
      else
        let aad := buildAad context sequenceNumber props (frame.subspan headerSize extBytes)
          frame.length
        (Crypto.ccmDecrypt ssl classKey nonce.toList aad (frame.drop cipherStart) tagSize).bind
          (stripEncrypted props)

/-- What is left after the encrypted extensions are stripped is no longer than the plaintext. -/
theorem length_stripEncrypted {props : UInt8} {plaintext inner : Bytes}
    (h : stripEncrypted props plaintext = some inner) : inner.length ≤ plaintext.length := by
  unfold stripEncrypted at h
  split at h
  · obtain ⟨length, -, hdrop⟩ := Option.bind_eq_some_iff.mp h
    split at hdrop
    · cases hdrop
    · obtain rfl := Option.some.inj hdrop
      simp only [List.length_drop]
      omega
  · exact (Option.some.inj h) ▸ Nat.le_refl _

variable {ssl} in
/-- The inner command is shorter than the frame. -/
theorem length_decrypt {frame inner : Bytes} {context : Context} {classKey : Key}
    {nonce : CcmNonce} (h : decrypt ssl frame context classKey nonce = some inner) :
    inner.length < frame.length := by
  unfold decrypt at h
  split at h
  · cases h
  next hshort =>
  have hlen : ¬ frame.length < headerSize + tagSize := fun hlt => hshort (Or.inl hlt)
  obtain ⟨extBytes, -, h⟩ := Option.bind_eq_some_iff.mp h
  dsimp only at h
  split at h
  · cases h
  · obtain ⟨plaintext, hopen, hstrip⟩ := Option.bind_eq_some_iff.mp h
    have hopened := Crypto.length_ccmDecrypt hopen
    have hstripped := length_stripEncrypted hstrip
    rw [List.length_drop] at hopened
    have htag : tagSize = 8 := rfl
    omega

/-- A chain of extensions that ends where `extensions` does, whatever follows it. -/
def WellFormed (extensions : Bytes) : Prop :=
  ∀ rest, extensionsLength (extensions ++ rest) = some extensions.length

/-- The encoded SPAN extension is a well-formed chain of one. -/
theorem wellFormed_encodeSpanExtension (sei : EntropyInput) :
    WellFormed (NonceSync.encodeSpanExtension sei) := by
  intro rest
  have hmore : NonceSync.spanExtensionFlags &&& extMoreToFollow = 0 := by decide
  have hlen : NonceSync.spanExtensionLength.toNat = 18 := rfl
  rw [extensionsLength, extensionsLengthFrom]
  simp [NonceSync.encodeSpanExtension, Bytes.byte, hmore, hlen]

/-! ## What is cut out of a frame -/

/-- The associated data and the ciphertext that `decrypt` passes to `ccmDecrypt`, where the frame
passes the checks before. -/
def authenticated (frame : Bytes) (context : Context) : Option (Bytes × Bytes) :=
  if frame.length < headerSize + tagSize ∨ frame.byte 0 ≠ commandClass ∨
      frame.byte 1 ≠ messageEncapsulation then none
  else
    (clearExtensions (frame.byte 3) (frame.drop headerSize)).bind fun extBytes =>
      if headerSize + extBytes + tagSize > frame.length then none
      else some (buildAad context (frame.byte 2) (frame.byte 3)
        (frame.subspan headerSize extBytes) frame.length, frame.drop (headerSize + extBytes))

variable {frame : Bytes} {context : Context}

/-- `decrypt` passes what `authenticated` gives to the cipher, and strips the encrypted extensions
of the plaintext. -/
theorem decrypt_eq_authenticated (ssl : OpenSsl) (frame : Bytes) (context : Context)
    (classKey : Key) (nonce : CcmNonce) : decrypt ssl frame context classKey nonce =
      (authenticated frame context).bind fun passed =>
        (Crypto.ccmDecrypt ssl classKey nonce.toList passed.1 passed.2 tagSize).bind
          (stripEncrypted (frame.byte 3)) := by
  unfold decrypt authenticated
  split
  · rfl
  · dsimp only
    cases clearExtensions (frame.byte 3) (frame.drop headerSize) with
    | none => rfl
    | some extBytes =>
      simp only [Option.bind_some]
      split <;> rfl

/-- A frame is its header, the extensions in the clear and the ciphertext, and the associated data
has all of it but the ciphertext. -/
theorem authenticated_eq_some_iff {aad cipher : Bytes} :
    authenticated frame context = some (aad, cipher) ↔ ∃ sequenceNumber props extensions,
      frame = [commandClass, messageEncapsulation, sequenceNumber, props] ++
          (extensions ++ cipher) ∧
        clearExtensions props (extensions ++ cipher) = some extensions.length ∧
        tagSize ≤ cipher.length ∧
        aad = buildAad context sequenceNumber props extensions frame.length := by
  have hheader : headerSize = 4 := rfl
  have htag : tagSize = 8 := rfl
  constructor
  -- What is authenticated has passed the guards, which say where the frame can be cut.
  · intro h
    unfold authenticated at h
    split at h
    · cases h
    next hframe =>
    simp only [not_or, not_not] at hframe
    obtain ⟨hlength, hclass, hcommand⟩ := hframe
    obtain ⟨extBytes, hchain, h⟩ := Option.bind_eq_some_iff.mp h
    split at h
    · cases h
    next hcipher =>
    obtain ⟨rfl, rfl⟩ := Prod.mk.inj (Option.some.inj h)
    -- The extensions and what is behind them are together the frame without its header.
    have hcut : frame.subspan headerSize extBytes ++ frame.drop (headerSize + extBytes) =
        frame.drop headerSize := by
      rw [Bytes.subspan, ← List.drop_drop, List.take_append_drop]
    have hext : (frame.subspan headerSize extBytes).length = extBytes := by
      simp only [Bytes.subspan, List.length_take, List.length_drop]
      omega
    refine ⟨frame.byte 2, frame.byte 3, frame.subspan headerSize extBytes, ?_, ?_, ?_, rfl⟩
    · rw [hcut, ← hclass, ← hcommand]
      have hfour := Bytes.take_eq_map_byte (show 4 ≤ frame.length by omega)
      calc frame = frame.take 4 ++ frame.drop 4 := (List.take_append_drop 4 frame).symm
        _ = (List.range 4).map frame.byte ++ frame.drop 4 := by rw [hfour]
    · rw [hcut, hext, hchain]
    · rw [List.length_drop]
      omega
  -- A frame that is put together so passes the guards, and is cut at the same places.
  · rintro ⟨sequenceNumber, props, extensions, hframe, hchain, hcipher, rfl⟩
    have hlength : frame.length = headerSize + extensions.length + cipher.length := by
      simp [hframe, headerSize]
      omega
    have hdrop : frame.drop headerSize = extensions ++ cipher := by simp [hframe, headerSize]
    have hext : frame.subspan headerSize extensions.length = extensions := by
      rw [Bytes.subspan, hdrop, List.take_left]
    have hrest : frame.drop (headerSize + extensions.length) = cipher := by
      rw [← List.drop_drop, hdrop, List.drop_left]
    have hbytes : frame.byte 0 = commandClass ∧ frame.byte 1 = messageEncapsulation ∧
        frame.byte 2 = sequenceNumber ∧ frame.byte 3 = props := by
      simp [hframe, Bytes.byte]
    rw [authenticated, if_neg (by simp only [hbytes, ne_eq, not_true_eq_false, or_false]; omega)]
    simp only [hbytes, hdrop, hchain, Option.bind_some, hext, hrest]
    rw [if_neg (by omega)]

/-! ## The round trip -/

/-- The properties byte that `encrypt` writes. -/
def propsOf (clear inside : Bytes) : UInt8 :=
  let props : UInt8 := if clear.isEmpty then 0x00 else propExt
  if inside.isEmpty then props else props ||| propEncExt

/-- The properties announce clear extensions exactly when there are some. -/
theorem propsOf_and_propExt (clear inside : Bytes) :
    propsOf clear inside &&& propExt ≠ 0 ↔ clear ≠ [] := by
  rw [propsOf]
  cases clear <;> cases inside <;> simp [propExt, propEncExt] <;> decide

/-- The properties announce encrypted extensions exactly when there are some. -/
theorem propsOf_and_propEncExt (clear inside : Bytes) :
    propsOf clear inside &&& propEncExt ≠ 0 ↔ inside ≠ [] := by
  rw [propsOf]
  cases clear <;> cases inside <;> simp [propExt, propEncExt] <;> decide

/-- The extensions in the clear are read back from the frame. -/
theorem clearExtensions_propsOf {clear : Bytes} (hclear : clear ≠ [] → WellFormed clear)
    (inside cipher : Bytes) :
    clearExtensions (propsOf clear inside) (clear ++ cipher) = some clear.length := by
  unfold clearExtensions
  by_cases hnil : clear = []
  · rw [if_neg (by rw [propsOf_and_propExt]; exact not_not.mpr hnil), hnil]
    rfl
  · rw [if_pos ((propsOf_and_propExt clear inside).mpr hnil)]
    exact hclear hnil cipher

/-- The extensions inside are taken off the plaintext, whatever the inner command looks like. -/
theorem stripEncrypted_propsOf {inside : Bytes} (hinside : inside ≠ [] → WellFormed inside)
    (clear inner : Bytes) :
    stripEncrypted (propsOf clear inside) (inside ++ inner) = some inner := by
  unfold stripEncrypted
  by_cases hnil : inside = []
  · rw [if_neg (by rw [propsOf_and_propEncExt]; exact not_not.mpr hnil), hnil]
    rfl
  · rw [if_pos ((propsOf_and_propEncExt clear inside).mpr hnil),
      hinside hnil inner, Option.bind_some,
      if_neg (by rw [List.length_append]; omega), List.drop_left]

/-- The header of a frame without encrypted extensions, and what follows it. -/
theorem encrypt_eq (inner : Bytes) (context : Context) (classKey : Key) (nonce : CcmNonce)
    (extensions : Bytes) :
    ∃ cipher, encrypt ssl inner context classKey nonce extensions =
      [commandClass, messageEncapsulation, context.sequenceNumber,
        if extensions.isEmpty then 0x00 else propExt] ++ (extensions ++ cipher) := ⟨_, rfl⟩

variable {ssl}

/-- A frame decrypts, under the key, the nonce and the identities it was made with, to the inner
command that went in. -/
theorem decrypt_encrypt_extensions (h : ssl.CcmInverse) (inner : Bytes) (context : Context)
    (classKey : Key) (nonce : CcmNonce) {clear inside : Bytes}
    (hclear : clear ≠ [] → WellFormed clear) (hinside : inside ≠ [] → WellFormed inside)
    (sequenceNumber : UInt8) :
    decrypt ssl (encrypt ssl inner context classKey nonce clear inside)
      { context with sequenceNumber } classKey nonce = some inner := by
  obtain ⟨frame, hframe⟩ : ∃ frame, frame =
      encrypt ssl inner context classKey nonce clear inside := ⟨_, rfl⟩
  obtain ⟨aad, haad⟩ : ∃ aad, aad = buildAad context context.sequenceNumber (propsOf clear inside)
      clear (headerSize + clear.length + (inside ++ inner).length + tagSize) := ⟨_, rfl⟩
  obtain ⟨cipher, hcipher⟩ : ∃ cipher, cipher = Crypto.ccmEncrypt ssl classKey nonce.toList aad
      (inside ++ inner) tagSize := ⟨_, rfl⟩
  have hparts : frame = [commandClass, messageEncapsulation, context.sequenceNumber,
      propsOf clear inside] ++ (clear ++ cipher) := by rw [hframe, hcipher, haad]; rfl
  have hlength : cipher.length = (inside ++ inner).length + tagSize := by
    rw [hcipher, Crypto.length_ccmEncrypt]
  have hframeLength : frame.length =
      headerSize + clear.length + (inside ++ inner).length + tagSize := by
    rw [hparts, List.length_append, List.length_append, hlength]
    simp only [headerSize, List.length_cons, List.length_nil]
    omega
  -- `decrypt` cuts the frame where `encrypt` put it together.
  have hcut : authenticated frame { context with sequenceNumber } = some (aad, cipher) := by
    rw [authenticated_eq_some_iff]
    exact ⟨_, _, clear, hparts, clearExtensions_propsOf hclear inside cipher, by omega,
      by rw [hframeLength, haad]; rfl⟩
  have hprops : frame.byte 3 = propsOf clear inside := by rw [hparts]; rfl
  rw [← hframe, decrypt_eq_authenticated, hcut, Option.bind_some, hprops]
  dsimp only
  rw [hcipher, Crypto.ccmDecrypt_ccmEncrypt h, Option.bind_some]
  exact stripEncrypted_propsOf hinside clear inner

/-- A frame without encrypted extensions decrypts, under the key, the nonce and the context it was
made with, to the inner command that went in. -/
theorem decrypt_encrypt (h : ssl.CcmInverse) (inner : Bytes) (context : Context) (classKey : Key)
    (nonce : CcmNonce) {extensions : Bytes} (hext : extensions ≠ [] → WellFormed extensions)
    (sequenceNumber : UInt8) :
    decrypt ssl (encrypt ssl inner context classKey nonce extensions)
      { context with sequenceNumber } classKey nonce = some inner :=
  decrypt_encrypt_extensions h inner context classKey nonce hext (fun hnil => absurd rfl hnil)
    sequenceNumber

end Zwaved.S2.Encapsulation
