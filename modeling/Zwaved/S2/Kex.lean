import Zwaved.S2.NonceSync

/-!
# The key exchange frames

`Kex.cpp`, `PublicKey.cpp` and `KeyInstall.cpp`: the frames by which a joining node and the
controller agree on classes (KEX), swap Curve25519 keys (PUBLIC_KEY_REPORT) and install network keys
(NETWORK_KEY_GET, REPORT, VERIFY and TRANSFER_END), and the pure rules that go with them: which
classes are granted, how a PIN is read and put back into an obfuscated key.
-/

namespace Zwaved.S2

/-- `COMMAND_CLASS`, the same for the three codecs. -/
def securityTwo : UInt8 := 0x9F

/-- `commandByte`, the same for the three codecs and for `NonceSync`. -/
def commandByte (payload : Bytes) : Option UInt8 := NonceSync.commandByte payload

/-! ## KEX -/

namespace Kex

/-- `KEX_GET`. -/
def kexGet : UInt8 := 0x04

/-- `KEX_REPORT`. -/
def kexReport : UInt8 := 0x05

/-- `KEX_SET`. -/
def kexSet : UInt8 := 0x06

/-- `KEX_FAIL`. -/
def kexFail : UInt8 := 0x07

/-- `PROP_ECHO`. -/
def propEcho : UInt8 := 0x01

/-- `PROP_REQUEST_CSA`. -/
def propRequestCsa : UInt8 := 0x02

/-- `KEX_SCHEME_1`. -/
def kexScheme1 : UInt8 := 0x02

/-- `ECDH_CURVE25519`. -/
def ecdhCurve25519 : UInt8 := 0x01

/-- `KEY_S2_UNAUTHENTICATED`. -/
def keyS2Unauthenticated : UInt8 := 0x01

/-- `KEY_S2_AUTHENTICATED`. -/
def keyS2Authenticated : UInt8 := 0x02

/-- `KEY_S2_ACCESS_CONTROL`. -/
def keyS2AccessControl : UInt8 := 0x04

/-- `KEY_S0`. -/
def keyS0 : UInt8 := 0x80

/-- `FAIL_KEY`. -/
def failKey : UInt8 := 0x01

/-- `FAIL_DECRYPT`. -/
def failDecrypt : UInt8 := 0x05

/-- `FAIL_AUTH`. -/
def failAuth : UInt8 := 0x07

/-- `FAIL_KEY_GET`. -/
def failKeyGet : UInt8 := 0x08

/-- `FAIL_KEY_VERIFY`. -/
def failKeyVerify : UInt8 := 0x09

/-- `Kex::Report`: what the joining node advertises. -/
structure Report where
  /-- `echo`. -/
  echo : Bool := false
  /-- `requestCsa`: client-side authentication, the node has no DSK label. -/
  requestCsa : Bool := false
  /-- `supportedSchemes`. -/
  supportedSchemes : UInt8 := 0
  /-- `supportedCurves`. -/
  supportedCurves : UInt8 := 0
  /-- `requestedKeys`. -/
  requestedKeys : UInt8 := 0
  deriving DecidableEq, Repr

/-- `Kex::Set`: what the controller grants. -/
structure Set where
  /-- `echo`. -/
  echo : Bool := false
  /-- `requestCsa`. -/
  requestCsa : Bool := false
  /-- `selectedScheme`. -/
  selectedScheme : UInt8 := 0
  /-- `selectedCurve`. -/
  selectedCurve : UInt8 := 0
  /-- `grantedKeys`. -/
  grantedKeys : UInt8 := 0
  deriving DecidableEq, Repr

/-- The properties byte of a report or a set. -/
def props (echo requestCsa : Bool) : UInt8 :=
  (if echo then propEcho else 0) ||| (if requestCsa then propRequestCsa else 0)

/-- `encodeGet`. -/
def encodeGet : Bytes := [securityTwo, kexGet]

/-- `encodeReport`. -/
def encodeReport (report : Report) : Bytes :=
  [securityTwo, kexReport, props report.echo report.requestCsa, report.supportedSchemes,
    report.supportedCurves, report.requestedKeys]

/-- `encodeSet`. -/
def encodeSet (set : Set) : Bytes :=
  [securityTwo, kexSet, props set.echo set.requestCsa, set.selectedScheme, set.selectedCurve,
    set.grantedKeys]

/-- `encodeFail`. -/
def encodeFail (failType : UInt8) : Bytes := [securityTwo, kexFail, failType]

/-- `decodeReport`. -/
def decodeReport (payload : Bytes) : Option Report :=
  if payload.length < 6 ∨ payload.byte 0 ≠ securityTwo ∨ payload.byte 1 ≠ kexReport then none
  else some
    { echo := payload.byte 2 &&& propEcho ≠ 0
      requestCsa := payload.byte 2 &&& propRequestCsa ≠ 0
      supportedSchemes := payload.byte 3
      supportedCurves := payload.byte 4
      requestedKeys := payload.byte 5 }

/-- `decodeSet`. -/
def decodeSet (payload : Bytes) : Option Set :=
  if payload.length < 6 ∨ payload.byte 0 ≠ securityTwo ∨ payload.byte 1 ≠ kexSet then none
  else some
    { echo := payload.byte 2 &&& propEcho ≠ 0
      requestCsa := payload.byte 2 &&& propRequestCsa ≠ 0
      selectedScheme := payload.byte 3
      selectedCurve := payload.byte 4
      grantedKeys := payload.byte 5 }

/-- `grantKeys`: what the node asks for and the controller supports, less Access Control for a node
without a DSK label. -/
def grantKeys (report : Report) (controllerSupportedKeys : UInt8) : UInt8 :=
  let granted := report.requestedKeys &&& controllerSupportedKeys
  if report.requestCsa then granted &&& ~~~ keyS2AccessControl else granted

/-- A node that asks for client-side authentication is never granted Access Control. -/
theorem grantKeys_csa {report : Report} (h : report.requestCsa = true) (supported : UInt8) :
    grantKeys report supported &&& keyS2AccessControl = 0 := by
  unfold grantKeys
  rw [if_pos h]
  generalize report.requestedKeys &&& supported = granted
  have hmask : ~~~ keyS2AccessControl &&& keyS2AccessControl = 0 := by decide
  rw [UInt8.and_assoc, hmask]
  exact UInt8.and_zero

end Kex

/-! ## Public keys and the DSK -/

namespace PublicKey

/-- `PUBLIC_KEY_REPORT`. -/
def publicKeyReport : UInt8 := 0x08

/-- `PROP_INCLUDING_NODE`. -/
def propIncludingNode : UInt8 := 0x01

/-- `OBFUSCATE_NONE`. -/
def obfuscateNone : ℕ := 0

/-- `OBFUSCATE_DSK`. -/
def obfuscateDsk : ℕ := 2

/-- `PublicKey::Report`. -/
structure Report where
  /-- `includingNode`. -/
  includingNode : Bool
  /-- `key`. -/
  key : PublicKey
  deriving DecidableEq, Repr

/-- `encode`: the first `obfuscateLeading` bytes of the key go out as zero. -/
def encode (includingNode : Bool) (key : PublicKey) (obfuscateLeading : ℕ) : Bytes :=
  [securityTwo, publicKeyReport, if includingNode then propIncludingNode else 0x00] ++
    (key.mapFinIdx fun i byte _ => if i < obfuscateLeading then 0x00 else byte).toList

/-- `decode`. -/
def decode (payload : Bytes) : Option Report :=
  if payload.length ≠ 3 + 32 ∨ payload.byte 0 ≠ securityTwo ∨
      payload.byte 1 ≠ publicKeyReport then none
  else some
    { includingNode := payload.byte 2 &&& propIncludingNode ≠ 0, key := payload.copyN 3 32 }

/-- `groupValue`: the big-endian value of a pair of bytes. -/
def groupValue (key : PublicKey) (index : ℕ) : ℕ :=
  (Bytes.byte key.toList (index * 2)).toNat * 256 + (Bytes.byte key.toList (index * 2 + 1)).toNat

/-- `std::format("{:05}", value)`. -/
def fiveDigits (value : ℕ) : String :=
  let digits := (toString value).toList
  String.ofList (List.replicate (5 - digits.length) '0' ++ digits)

/-- `dskString`: eight groups of five digits. -/
def dskString (key : PublicKey) : String :=
  "-".intercalate ((List.range 8).map fun group => fiveDigits (groupValue key group))

/-- `dskPin`: the first group. -/
def dskPin (key : PublicKey) : String := fiveDigits (groupValue key 0)

/-- The digits of a PIN, one after the other. -/
def pinValue (value : ℕ) : Bytes → Option ℕ
  | [] => some value
  | digit :: pin =>
    if digit < 0x30 ∨ digit > 0x39 then none
    else pinValue (value * 10 + (digit.toNat - 0x30)) pin

/-- `parsePin`: exactly five digits, of a value that fits sixteen bits. -/
def parsePin (pin : Bytes) : Option ℕ :=
  if pin.length ≠ 5 then none
  else (pinValue 0 pin).bind fun value => if value > 0xFFFF then none else some value

/-- `applyPin`: the PIN is the first two bytes of the key. -/
def applyPin (obfuscatedKey : PublicKey) (pin : ℕ) : PublicKey :=
  (obfuscatedKey.set 0 (pin >>> 8).toUInt8).set 1 pin.toUInt8

end PublicKey

/-! ## Key installation -/

namespace KeyInstall

/-- `NETWORK_KEY_GET`. -/
def networkKeyGet : UInt8 := 0x09

/-- `NETWORK_KEY_REPORT`. -/
def networkKeyReport : UInt8 := 0x0A

/-- `NETWORK_KEY_VERIFY`. -/
def networkKeyVerify : UInt8 := 0x0B

/-- `TRANSFER_END`. -/
def transferEnd : UInt8 := 0x0C

/-- `TRANSFER_KEY_VERIFIED`. -/
def transferKeyVerified : UInt8 := 0x02

/-- `TRANSFER_KEY_REQUEST_COMPLETE`. -/
def transferKeyRequestComplete : UInt8 := 0x01

/-- `KeyInstall::KeyReport`. -/
structure KeyReport where
  /-- `grantedKey`. -/
  grantedKey : UInt8
  /-- `key`. -/
  key : Key
  deriving DecidableEq, Repr

/-- `KeyInstall::TransferEnd`. -/
structure TransferEnd where
  /-- `keyVerified`. -/
  keyVerified : Bool
  /-- `keyRequestComplete`. -/
  keyRequestComplete : Bool
  deriving DecidableEq, Repr

/-- `encodeKeyGet`. -/
def encodeKeyGet (requestedKeyBit : UInt8) : Bytes :=
  [securityTwo, networkKeyGet, requestedKeyBit]

/-- `encodeKeyReport`. -/
def encodeKeyReport (grantedKeyBit : UInt8) (key : Key) : Bytes :=
  [securityTwo, networkKeyReport, grantedKeyBit] ++ key.toList

/-- `encodeKeyVerify`. -/
def encodeKeyVerify : Bytes := [securityTwo, networkKeyVerify]

/-- `encodeTransferEnd`. -/
def encodeTransferEnd (keyVerified keyRequestComplete : Bool) : Bytes :=
  [securityTwo, transferEnd, (if keyVerified then transferKeyVerified else 0) |||
    (if keyRequestComplete then transferKeyRequestComplete else 0)]

/-- `decodeKeyGet`. -/
def decodeKeyGet (payload : Bytes) : Option UInt8 :=
  if payload.length < 3 ∨ payload.byte 0 ≠ securityTwo ∨ payload.byte 1 ≠ networkKeyGet then none
  else some (payload.byte 2)

/-- `decodeKeyReport`. -/
def decodeKeyReport (payload : Bytes) : Option KeyReport :=
  if payload.length ≠ 3 + 16 ∨ payload.byte 0 ≠ securityTwo ∨
      payload.byte 1 ≠ networkKeyReport then none
  else some { grantedKey := payload.byte 2, key := payload.copyN 3 16 }

/-- `decodeTransferEnd`. -/
def decodeTransferEnd (payload : Bytes) : Option TransferEnd :=
  if payload.length < 3 ∨ payload.byte 0 ≠ securityTwo ∨ payload.byte 1 ≠ transferEnd then none
  else some
    { keyVerified := payload.byte 2 &&& transferKeyVerified ≠ 0
      keyRequestComplete := payload.byte 2 &&& transferKeyRequestComplete ≠ 0 }

/-- `classForKeyBit`: one bit, or no class. -/
def classForKeyBit (keyBit : UInt8) : Option NetworkKeys.Class :=
  if keyBit = Kex.keyS2Unauthenticated then some .unauthenticated
  else if keyBit = Kex.keyS2Authenticated then some .authenticated
  else if keyBit = Kex.keyS2AccessControl then some .accessControl
  else if keyBit = Kex.keyS0 then some .s0Compat
  else none

/-- A NETWORK_KEY_REPORT decodes to the key and the bit that it was encoded with. -/
theorem decodeKeyReport_encodeKeyReport (bit : UInt8) (key : Key) :
    decodeKeyReport (encodeKeyReport bit key) = some { grantedKey := bit, key } := by
  have hkey := Bytes.copyN_append [securityTwo, networkKeyReport, bit] key []
  simp only [List.append_nil, List.cons_append, List.nil_append, List.length_cons,
    List.length_nil] at hkey
  simp [decodeKeyReport, encodeKeyReport, Bytes.byte, hkey]

/-- A frame of another command is no key report. -/
theorem decodeKeyReport_eq_none {payload : Bytes} (h : payload.byte 1 ≠ networkKeyReport) :
    decodeKeyReport payload = none := by
  unfold decodeKeyReport
  rw [if_pos (Or.inr (Or.inr h))]

end KeyInstall

end Zwaved.S2
