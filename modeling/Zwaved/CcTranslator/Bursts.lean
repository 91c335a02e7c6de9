import Mathlib.Data.FinEnum
import Zwaved.CcTranslator.Encapsulation
import Zwaved.Codec.Crc
import Zwaved.TransportService.Split

/-!
# Damaged frames

CRC-16 Encapsulation and the Transport Service protect their frames by the same check sequence,
which two loops compute. It is the register of `Codec.Crc` for the polynomial `0x1021`, so a frame
that its own check sequence ends leaves the register empty, and a frame in which up to 16 bits in a
row are damaged does not: it is dropped, and the assembler stays as it was.

The bits of a frame are counted as the check sequence takes them in, each byte from its highest bit.
-/

namespace Zwaved

open Codec.Crc

/-- The bits of a byte string, each byte from its highest bit. -/
def Bytes.bits (data : Bytes) : List Bool :=
  data.flatMap fun byte => (List.range 8).map byte.toBitVec.getMsbD

namespace TransportService

/-! ## The check sequence as a register -/

/-- `FCS_POLY`. -/
def fcsPoly : BitVec 16 := 0x1021

/-- The generator polynomial has its lowest coefficient set. -/
theorem fcsPoly_odd : fcsPoly.getLsbD 0 = true := rfl

/-- The bits of two byte strings are those of the first and then those of the second. -/
theorem bits_append (data data' : Bytes) : Bytes.bits (data ++ data') = data.bits ++ data'.bits :=
  List.flatMap_append

/-- Two bytes are sixteen bits. -/
theorem length_bits_two (high low : UInt8) : (Bytes.bits [high, low]).length = 16 := rfl

/-- One round of the bit loop shifts the register once by the polynomial. -/
theorem toBitVec_fcsBit (crc : UInt16) : (fcsBit crc).toBitVec = shift fcsPoly crc.toBitVec := by
  have hmask : (0x8000 : UInt16).toBitVec = BitVec.twoPow 16 15 := rfl
  have htop : crc &&& 0x8000 ≠ 0 ↔ crc.toBitVec.msb = true := by
    rw [ne_eq, ← UInt16.toBitVec_inj, UInt16.toBitVec_and, hmask, BitVec.and_twoPow,
      BitVec.msb_eq_getLsbD_last]
    cases crc.toBitVec.getLsbD 15 with
    | false => simp
    | true => simp
  unfold fcsBit shift
  by_cases hbit : crc.toBitVec.msb = true
  · rw [if_pos hbit, if_pos (htop.mpr hbit)]
    rfl
  · rw [if_neg hbit, if_neg (htop.not.mpr hbit)]
    rfl

/-- The bits of a byte, laid down, are the byte at the upper end. -/
theorem place_byte (byte : UInt8) :
    place 16 (Bytes.bits [byte]) = (byte.toUInt16 <<< (8 : UInt16)).toBitVec := by
  have h : ∀ byte : UInt8, place 16 (Bytes.bits [byte]) =
      (byte.toUInt16 <<< (8 : UInt16)).toBitVec := by decide +kernel
  exact h byte

/-- One byte of the check sequence reads its eight bits into the register. -/
theorem toBitVec_fcsByte (crc : UInt16) (byte : UInt8) :
    (fcsByte crc byte).toBitVec = readBits fcsPoly crc.toBitVec (Bytes.bits [byte]) := by
  have hsemi : Function.Semiconj UInt16.toBitVec fcsBit (shift fcsPoly) := toBitVec_fcsBit
  have hlength : (Bytes.bits [byte]).length = 8 := rfl
  rw [readBits_eq_iterate _ _ (by rw [hlength]; decide), hlength, place_byte]
  exact hsemi.iterate_right 8 _

/-- The check sequence over bytes is the remainder register read over their bits, by induction on
the bytes. -/
theorem toBitVec_foldl_fcsByte (crc : UInt16) (data : Bytes) :
    (data.foldl fcsByte crc).toBitVec = readBits fcsPoly crc.toBitVec data.bits := by
  induction data generalizing crc with
  | nil => rfl
  | cons byte data ih =>
    have hbits : Bytes.bits (byte :: data) = Bytes.bits [byte] ++ Bytes.bits data :=
      bits_append [byte] data
    rw [List.foldl_cons, ih, toBitVec_fcsByte, hbits]
    exact List.foldl_append.symm

/-- The bits of two bytes, laid down in a register, are the word with the first byte high. -/
theorem place_trailer (high low : UInt8) : place 16 (Bytes.bits [high, low]) =
    (high.toUInt16 <<< (8 : UInt16) ||| low.toUInt16).toBitVec := by
  have hlow : ∀ low : UInt8, place 16 (Bytes.bits [low]) >>> 8 = low.toUInt16.toBitVec := by
    decide +kernel
  have hsplit : Bytes.bits [high, low] = Bytes.bits [high] ++ Bytes.bits [low] := rfl
  have hlength : (Bytes.bits [high]).length = 8 := rfl
  rw [hsplit, place_append, hlength, place_byte, hlow, UInt16.toBitVec_or]
  -- The two bytes do not overlap.
  apply BitVec.eq_of_getLsbD_eq
  intro i hi
  rw [BitVec.getLsbD_xor, BitVec.getLsbD_or, UInt16.toBitVec_shiftLeft]
  by_cases hlower : i < 8
  · simp [hlower]
  · have hnone : low.toBitVec.getLsbD i = false := BitVec.getLsbD_of_ge _ _ (by omega)
    simp [hnone]

/-- A frame that ends in two bytes leaves the register empty exactly if these are its check
sequence. -/
theorem fcs_eq_iff (body : Bytes) (high low : UInt8) :
    fcs body = high.toUInt16 <<< (8 : UInt16) ||| low.toUInt16 ↔
      readBits fcsPoly (UInt16.toBitVec 0x1D0F) (Bytes.bits (body ++ [high, low])) = 0#16 := by
  -- The register stands at the check sequence of the body when the last two bytes are read.
  have hread : readBits fcsPoly (UInt16.toBitVec 0x1D0F) (Bytes.bits (body ++ [high, low])) =
      readBits fcsPoly (fcs body).toBitVec (Bytes.bits [high, low]) := by
    rw [bits_append, fcs, toBitVec_foldl_fcsByte]
    exact List.foldl_append
  rw [hread, readBits_eq_zero_iff fcsPoly_odd _ (Nat.le_of_eq (length_bits_two high low)),
    place_trailer, UInt16.toBitVec_inj]

/-- A frame that ends in its check sequence. -/
def EndsInFcs (frame : Bytes) : Prop :=
  ∃ body high low, frame = body ++ [high, low] ∧
    fcs body = high.toUInt16 <<< (8 : UInt16) ||| low.toUInt16

/-- No burst of up to 16 bits leads from one such frame to another. -/
theorem EndsInFcs.not_of_burst {frame frame' : Bytes} (h : EndsInFcs frame)
    (hburst : Burst 16 frame.bits frame'.bits) : ¬ EndsInFcs frame' := by
  rintro ⟨body', high', low', rfl, hcheck'⟩
  obtain ⟨body, high, low, rfl, hcheck⟩ := h
  have hempty := (fcs_eq_iff body high low).mp hcheck
  have hempty' := (fcs_eq_iff body' high' low').mp hcheck'
  exact readBits_ne_of_burst fcsPoly_odd _ hburst (Nat.le_refl 16) (hempty'.trans hempty.symm)

/-- A frame of two bytes or more is what comes before its last two bytes, and those. -/
theorem eq_append_trailer {frame : Bytes} (h : 2 ≤ frame.length) :
    frame = frame.take (frame.length - 2) ++
      [frame.byte (frame.length - 2), frame.byte (frame.length - 2 + 1)] := by
  have hend : frame.drop (frame.length - 2 + 1 + 1) = [] := List.drop_eq_nil_of_le (by omega)
  calc frame = frame.take (frame.length - 2) ++ frame.drop (frame.length - 2) :=
        (List.take_append_drop ..).symm
    _ = _ := by
        rw [Bytes.drop_eq_byte_cons (by omega), Bytes.drop_eq_byte_cons (by omega), hend]

/-- The mask leaves a byte. -/
theorem and_byteMask (low : UInt8) : low.toUInt16 &&& 0x00FF = low.toUInt16 := by
  have h : ∀ low : UInt8, low.toUInt16 &&& 0x00FF = low.toUInt16 := by decide +kernel
  exact h low

/-- A check sequence is read back from its two bytes. -/
theorem fcs_trailer (crc : UInt16) :
    crc = ((crc >>> 8) &&& 0x00FF).toUInt8.toUInt16 <<< (8 : UInt16) |||
      (crc &&& 0x00FF).toUInt8.toUInt16 := by
  rw [← and_byteMask (crc &&& 0x00FF).toUInt8]
  exact (sixteenBits crc).symm

/-- A segment to which the check sequence was appended ends in it. -/
theorem endsInFcs_appendFcs (seg : Bytes) : EndsInFcs (appendFcs seg) :=
  ⟨seg, _, _, rfl, fcs_trailer (fcs seg)⟩

/-- What passes the check of the assembler ends in its check sequence. -/
theorem endsInFcs_of_fcsValid {segment : Bytes} (h : Assembler.FcsValid segment) :
    EndsInFcs segment := by
  obtain ⟨hheader, hcheck⟩ := h
  have hfcs : fcsLen = 2 := rfl
  have hlength : ¬ segment.length < fcsLen + 1 := fun hshort => hheader (Or.inl hshort)
  rw [Assembler.trailer, and_byteMask] at hcheck
  exact ⟨_, _, _, eq_append_trailer (by omega), hcheck⟩

/-- A segment damaged by a burst of at most sixteen bits is dropped: the assembler stays as it is
and returns nothing. -/
theorem feedSegment_of_burst (a : Assembler) {seg segment : Bytes}
    (hburst : Burst 16 (appendFcs seg).bits segment.bits) : a.feedSegment segment = .ok (a, none) :=
  if_pos fun hvalid =>
    (endsInFcs_appendFcs seg).not_of_burst hburst (endsInFcs_of_fcsValid hvalid)

/-- Every segment of a datagram ends in its check sequence. -/
theorem exists_appendFcs_of_mem_splitFrom {datagram : Bytes} {sessionId : UInt8} {offset : ℕ}
    {first : Bool} {segment : Bytes} (h : segment ∈ splitFrom datagram sessionId offset first) :
    ∃ seg, segment = appendFcs seg := by
  -- Each turn of the loop makes one segment, and the others are those of the turns after it.
  induction offset, first using splitFrom.induct datagram with
  | case1 offset first hmore chunk ih =>
    rw [splitFrom, if_pos hmore] at h
    obtain rfl | hrest := List.mem_cons.mp h
    · exact ⟨_, rfl⟩
    · exact ih hrest
  | case2 offset first hdone =>
    rw [splitFrom, if_neg hdone] at h
    cases h

/-- Every segment of a datagram is one to which the check sequence was appended. -/
theorem exists_appendFcs_of_mem_splitOutbound {datagram : Bytes} {sessionId : UInt8}
    {segment : Bytes} (h : segment ∈ splitOutbound datagram sessionId) :
    ∃ seg, segment = appendFcs seg := by
  unfold splitOutbound at h
  split at h
  · cases h
  · exact exists_appendFcs_of_mem_splitFrom h

end TransportService

namespace CcTranslator.Crc16Encap

open TransportService (Assembler EndsInFcs appendFcs fcs splitOutbound)

/-! ## CRC-16 Encapsulation -/

/-- CRC-16 Encapsulation's loop over the bits of a byte does what Transport Service's does, bit by
bit. -/
theorem crcBits_eq_iterate (crc : UInt16) (bits : ℕ) :
    crcBits crc bits = TransportService.fcsBit^[bits] crc := by
  induction bits generalizing crc with
  | zero => rfl
  | succ bits ih =>
    have hbit : TransportService.fcsBit crc =
        if crc &&& msbMask ≠ 0 then (crc <<< 1) ^^^ crcPoly else crc <<< 1 := rfl
    rw [crcBits, ih, ih, Function.iterate_succ_apply, hbit]
    by_cases htop : crc &&& msbMask ≠ 0
    · rw [if_pos htop, if_pos htop]
    · rw [if_neg htop, if_neg htop]

/-- `checksum` and `fcs` are the same function. -/
theorem checksum_eq_fcs (data : Bytes) : checksum data = fcs data := by
  have hbyte : (fun crc (byte : UInt8) => crcBits (crc ^^^ (byte.toUInt16 <<< (8 : UInt16))) 8) =
      TransportService.fcsByte := by
    funext crc byte
    exact crcBits_eq_iterate _ 8
  rw [checksum, hbyte]
  rfl

/-- A CRC-16 encoded frame is its header and the command with the check sequence appended, as
Transport Service appends it. -/
theorem encode_eq_appendFcs (innerCommand : Bytes) :
    encode innerCommand = TransportService.appendFcs (commandClass :: crc16Encap :: innerCommand) := by
  unfold encode TransportService.appendFcs
  dsimp only
  rw [checksum_eq_fcs]

/-- What is unwrapped ends in its check sequence. -/
theorem endsInFcs_of_verifyAndUnwrap {payload : Bytes} (h : verifyAndUnwrap payload ≠ none) :
    EndsInFcs payload := by
  unfold verifyAndUnwrap at h
  by_cases hheader : payload.length < minBytes ∨ payload.byte 0 ≠ commandClass ∨
      payload.byte 1 ≠ crc16Encap
  · exact absurd (if_pos hheader) h
  rw [if_neg hheader] at h
  have hmin : minBytes = 5 := rfl
  have hlength : ¬ payload.length < minBytes := fun hshort => hheader (Or.inl hshort)
  refine ⟨_, _, _, TransportService.eq_append_trailer (by omega), ?_⟩
  rw [← checksum_eq_fcs]
  by_contra hcheck
  exact h (if_pos hcheck)

/-- A CRC-16 frame damaged by a burst of at most sixteen bits is not unwrapped. -/
theorem verifyAndUnwrap_of_burst {innerCommand payload : Bytes}
    (hburst : Burst 16 (encode innerCommand).bits payload.bits) : verifyAndUnwrap payload = none := by
  by_contra h
  rw [encode_eq_appendFcs] at hburst
  exact (TransportService.endsInFcs_appendFcs _).not_of_burst hburst
    (endsInFcs_of_verifyAndUnwrap h)

/-- A command that is not empty comes out of its CRC-16 encapsulation again. -/
theorem verifyAndUnwrap_encode {innerCommand : Bytes} (h : innerCommand ≠ []) :
    verifyAndUnwrap (encode innerCommand) = some innerCommand := by
  have hpos := List.length_pos_iff.mpr h
  obtain ⟨body, hbody⟩ : ∃ body, body = commandClass :: crc16Encap :: innerCommand := ⟨_, rfl⟩
  have hsize : body.length = innerCommand.length + 2 := by
    rw [hbody, List.length_cons, List.length_cons]
  rw [encode_eq_appendFcs, ← hbody, TransportService.appendFcs]
  -- The trailer is the check sequence of what it stands behind, so the check passes.
  generalize hhigh : ((fcs body >>> 8) &&& 0x00FF).toUInt8 = high
  generalize hlow : (fcs body &&& 0x00FF).toUInt8 = low
  have hlength : (body ++ [high, low]).length - trailerLen = body.length := by
    rw [List.length_append]
    rfl
  have htop : Bytes.byte (body ++ [high, low]) body.length = high :=
    Bytes.byte_append_right body [high, low] 0
  have hnext : Bytes.byte (body ++ [high, low]) (body.length + 1) = low :=
    Bytes.byte_append_right body [high, low] 1
  have hclass : Bytes.byte (body ++ [high, low]) 0 = commandClass := by rw [hbody]; rfl
  have hcommand : Bytes.byte (body ++ [high, low]) 1 = crc16Encap := by rw [hbody]; rfl
  have hcheck : checksum body = high.toUInt16 <<< (8 : UInt16) ||| low.toUInt16 := by
    rw [checksum_eq_fcs, ← hhigh, ← hlow]
    exact TransportService.fcs_trailer (fcs body)
  have hlong : ¬ (body ++ [high, low]).length < minBytes := by
    rw [List.length_append, hsize, minBytes, List.length_cons, List.length_singleton]
    omega
  unfold verifyAndUnwrap
  rw [if_neg (not_or.mpr ⟨hlong, not_or.mpr ⟨not_not.mpr hclass, not_not.mpr hcommand⟩⟩)]
  dsimp only
  rw [hlength, htop, hnext, List.take_left, if_neg (not_not.mpr hcheck), hbody]
  simp [Bytes.subspan]

/-- The two check sequences are one function. What has been wrapped is unwrapped, and a wrapped
command or a segment in which up to 16 bits in a row are damaged is dropped, wherever they are. -/
theorem crc_catches_bursts :
    (∀ data, checksum data = fcs data) ∧
    (∀ innerCommand, innerCommand ≠ [] →
      verifyAndUnwrap (encode innerCommand) = some innerCommand) ∧
    (∀ innerCommand payload, Burst 16 (encode innerCommand).bits payload.bits →
      verifyAndUnwrap payload = none) ∧
    (∀ (a : Assembler) seg segment, Burst 16 (appendFcs seg).bits segment.bits →
      a.feedSegment segment = .ok (a, none)) ∧
    ∀ datagram sessionId, ∀ segment ∈ splitOutbound datagram sessionId,
      ∃ seg, segment = appendFcs seg :=
  ⟨checksum_eq_fcs, fun _ => verifyAndUnwrap_encode, fun _ _ => verifyAndUnwrap_of_burst,
    fun a _ _ => TransportService.feedSegment_of_burst a,
    fun _ _ _ => TransportService.exists_appendFcs_of_mem_splitOutbound⟩

/-- Two bits of a wrapped BINARY_SWITCH_GET are damaged, on both sides of the end of a byte. -/
theorem crc_catches_bursts_switch :
    verifyAndUnwrap (((encode [0x25, 0x02]).set 2 0x24).set 3 0x82) = none :=
  crc_catches_bursts.2.2.1 [0x25, 0x02] _ ⟨by decide, by decide, 16, by decide, by decide⟩

end CcTranslator.Crc16Encap

end Zwaved
