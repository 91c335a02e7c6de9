import Mathlib.Data.FinEnum
import Zwaved.TransportService.Invariant

/-!
# Splitting a datagram

`splitOutbound` of `TransportService.cpp`: a datagram goes out in pieces of `segmentPayloadMax`
bytes, the first in a FIRST_SEGMENT and the others in SUBSEQUENT_SEGMENTs that carry their offset.
The size and the offset are eleven bits each, over two bytes; the low byte is one of its own, and
the high bits share a byte with the command or with the session id.

`feedSegment_first` and `feedSegment_subsequent` are what the assembler makes of the two kinds: it
reads back what was laid down, so the piece is placed where it was cut.
-/

namespace Zwaved.TransportService

/-- `SEGMENT_PAYLOAD_MAX`. -/
def segmentPayloadMax : ℕ := 39

/-- `appendFcs`: the check sequence of all that comes before it, high byte first. -/
def appendFcs (seg : Bytes) : Bytes :=
  seg ++ [((fcs seg >>> 8) &&& 0x00FF).toUInt8, (fcs seg &&& 0x00FF).toUInt8]

/-- `sizeHigh`. -/
def sizeHigh (size : ℕ) : UInt8 := UInt8.ofNat (size >>> 8) &&& datagramSizeMask

/-- `sizeLow`. -/
def sizeLow (size : ℕ) : UInt8 := UInt8.ofNat (size &&& 0xFF)

/-- `session`. -/
def sessionBits (sessionId : UInt8) : UInt8 := (sessionId <<< sessionIdShift) &&& sessionIdMask

/-- The bytes of a segment in front of its payload. -/
def segmentHeader (size : ℕ) (sessionId : UInt8) (offset : ℕ) (first : Bool) : Bytes :=
  if first then
    -- The extension flag is clear.
    [commandClass, firstSegment ||| sizeHigh size, sizeLow size, sessionBits sessionId]
  else
    [commandClass, subsequentSegment ||| sizeHigh size, sizeLow size,
      sessionBits sessionId ||| (UInt8.ofNat (offset >>> 8) &&& offsetHighMask),
      UInt8.ofNat (offset &&& 0xFF)]

/-- The loop of `splitOutbound`, from `offset` on. -/
def splitFrom (datagram : Bytes) (sessionId : UInt8) (offset : ℕ) (first : Bool) : List Bytes :=
  if offset < datagram.length then
    let chunk := min segmentPayloadMax (datagram.length - offset)
    appendFcs (segmentHeader datagram.length sessionId offset first ++
        datagram.subspan offset chunk) ::
      splitFrom datagram sessionId (offset + chunk) false
  else []
termination_by datagram.length - offset
decreasing_by
  simp only [segmentPayloadMax]
  omega

/-- `splitOutbound`. -/
def splitOutbound (datagram : Bytes) (sessionId : UInt8) : List Bytes :=
  if datagram.length = 0 then [] else splitFrom datagram sessionId 0 true

/-! ## Numbers over two bytes -/

/-- A byte below a number shifted by eight bits is added to it. -/
theorem shiftLeft_or (n : ℕ) {m : ℕ} (h : m < 256) : n <<< 8 ||| m = n * 256 + m := by
  rw [← Nat.shiftLeft_add_eq_or_of_lt (i := 8) h, Nat.shiftLeft_eq]

/-- The low byte of a number is its remainder by 256. -/
theorem and_byte (n : ℕ) : n &&& 0xFF = n % 256 := Nat.and_two_pow_sub_one_eq_mod n 8

/-- Eleven bits come back out of their high three and their low byte. -/
theorem elevenBits {n : ℕ} (h : n < 2048) :
    (UInt8.ofNat (n >>> 8) &&& 0x07).toNat <<< 8 ||| (UInt8.ofNat (n &&& 0xFF)).toNat = n := by
  have hseven : ∀ k : ℕ, k &&& 7 = k % 8 := fun k => Nat.and_two_pow_sub_one_eq_mod k 3
  simp only [UInt8.toNat_and, UInt8.toNat_ofNat', UInt8.reduceToNat, hseven, and_byte,
    Nat.shiftRight_eq_div_pow]
  rw [shiftLeft_or _ (by omega)]
  omega

/-- A check sequence reads back from its two bytes. -/
theorem sixteenBits (crc : UInt16) :
    (((crc >>> 8) &&& 0x00FF).toUInt8.toUInt16 <<< (8 : UInt16)) |||
      ((crc &&& 0x00FF).toUInt8.toUInt16 &&& 0x00FF) = crc := by
  have hlt := crc.toNat_lt
  apply UInt16.toNat.inj
  simp only [UInt16.toNat_or, UInt16.toNat_shiftLeft, UInt8.toNat_toUInt16, UInt16.toNat_toUInt8,
    UInt16.toNat_and, UInt16.toNat_shiftRight, UInt16.reduceToNat, and_byte,
    Nat.shiftRight_eq_div_pow, Nat.reduceMod, Nat.reducePow]
  have hhigh : (crc.toNat / 256 % 256 % 256) <<< 8 % 65536 = (crc.toNat / 256) <<< 8 := by
    rw [Nat.shiftLeft_eq, Nat.shiftLeft_eq]
    omega
  rw [hhigh, shiftLeft_or _ (by omega)]
  omega

/-- The command reads back from the first byte of a FIRST_SEGMENT, whatever the size. -/
theorem firstSegment_command (size : ℕ) :
    (firstSegment ||| sizeHigh size) &&& commandMask = firstSegment := by
  have h : ∀ x : UInt8, (firstSegment ||| (x &&& datagramSizeMask)) &&& commandMask =
      firstSegment := by decide +kernel
  exact h _

/-- The high bits of the size read back from the first byte of a FIRST_SEGMENT. -/
theorem firstSegment_size (size : ℕ) :
    (firstSegment ||| sizeHigh size) &&& datagramSizeMask = sizeHigh size := by
  have h : ∀ x : UInt8, (firstSegment ||| (x &&& datagramSizeMask)) &&& datagramSizeMask =
      x &&& datagramSizeMask := by decide +kernel
  exact h _

/-- The command reads back from the first byte of a SUBSEQUENT_SEGMENT, whatever the size. -/
theorem subsequentSegment_command (size : ℕ) :
    (subsequentSegment ||| sizeHigh size) &&& commandMask = subsequentSegment := by
  have h : ∀ x : UInt8, (subsequentSegment ||| (x &&& datagramSizeMask)) &&& commandMask =
      subsequentSegment := by decide +kernel
  exact h _

/-- The high bits of the size read back from the first byte of a SUBSEQUENT_SEGMENT. -/
theorem subsequentSegment_size (size : ℕ) :
    (subsequentSegment ||| sizeHigh size) &&& datagramSizeMask = sizeHigh size := by
  have h : ∀ x : UInt8, (subsequentSegment ||| (x &&& datagramSizeMask)) &&& datagramSizeMask =
      x &&& datagramSizeMask := by decide +kernel
  exact h _

/-- The bits of the high half of a byte and of the low half are read back apart. -/
theorem and_or_and (a b m k l : UInt8) :
    ((a &&& m) ||| (b &&& k)) &&& l = (a &&& (m &&& l)) ||| (b &&& (k &&& l)) := by
  apply UInt8.eq_of_toBitVec_eq
  simp only [UInt8.toBitVec_and, UInt8.toBitVec_or, BitVec.and_or_distrib_right, BitVec.and_assoc]

/-! ## What a segment says -/

section Segment

variable {datagram : Bytes} {sessionId : UInt8} {offset : ℕ}

/-- The FIRST_SEGMENT of a datagram. -/
def firstSegmentOf (datagram : Bytes) (sessionId : UInt8) : Bytes :=
  appendFcs (segmentHeader datagram.length sessionId 0 true ++
    datagram.subspan 0 (min segmentPayloadMax datagram.length))

/-- The SUBSEQUENT_SEGMENT of a datagram at an offset. -/
def subsequentSegmentOf (datagram : Bytes) (sessionId : UInt8) (offset : ℕ) : Bytes :=
  appendFcs (segmentHeader datagram.length sessionId offset false ++
    datagram.subspan offset (min segmentPayloadMax (datagram.length - offset)))

/-- The session id that the segments of a datagram declare. -/
def sessionOf (sessionId : UInt8) : UInt8 := (sessionBits sessionId &&& sessionIdMask) >>> sessionIdShift

/-- The check sequence is two bytes long. -/
@[simp] theorem length_appendFcs (seg : Bytes) : (appendFcs seg).length = seg.length + 2 := by
  simp [appendFcs]

/-- The check sequence at the end leaves the header where it was. -/
theorem byte_appendFcs {header : Bytes} (payload : Bytes) {i : ℕ} (h : i < header.length) :
    (appendFcs (header ++ payload)).byte i = header.byte i := by
  unfold appendFcs Bytes.byte
  rw [List.append_assoc, List.getD_eq_getElem?_getD, List.getElem?_append_left h,
    ← List.getD_eq_getElem?_getD]

/-- A payload is read back between the header and the check sequence. -/
theorem subspan_appendFcs (header payload : Bytes) :
    (appendFcs (header ++ payload)).subspan header.length payload.length = payload := by
  simp [appendFcs, Bytes.subspan]

/-- A segment that `appendFcs` completes passes the check. -/
theorem fcsValid_appendFcs {seg : Bytes} (hlen : 1 ≤ seg.length)
    (hclass : (appendFcs seg).byte 0 = commandClass) : Assembler.FcsValid (appendFcs seg) := by
  refine ⟨?_, ?_⟩
  · rw [hclass, length_appendFcs]
    simp only [fcsLen, ne_eq, not_true_eq_false, or_false, Nat.not_lt]
    omega
  · have hbody : (appendFcs seg).subspan 0 ((appendFcs seg).length - fcsLen) = seg := by
      simp [appendFcs, Bytes.subspan, fcsLen]
    have hhigh : (appendFcs seg).byte seg.length = ((fcs seg >>> 8) &&& 0x00FF).toUInt8 := by
      simp [appendFcs, Bytes.byte]
    have hlow : (appendFcs seg).byte (seg.length + 1) = (fcs seg &&& 0x00FF).toUInt8 := by
      simp [appendFcs, Bytes.byte]
    rw [hbody]
    unfold Assembler.trailer
    rw [length_appendFcs, fcsLen, Nat.add_sub_cancel, hhigh, hlow, sixteenBits]

/-- What the assembler reads out of a segment without a header extension. -/
structure Reads (segment : Bytes) (command : UInt8) (size : ℕ) (session : UInt8) (header : ℕ)
    (payload : Bytes) : Prop where
  /-- The check sequence is right. -/
  valid : Assembler.FcsValid segment
  /-- The command. -/
  command : segment.byte 1 &&& commandMask = command
  /-- The datagram size. -/
  size : Assembler.declaredSize segment = size
  /-- The session id. -/
  session : Assembler.declaredSession segment = session
  /-- Where the payload starts. -/
  start : Assembler.payloadStart segment (segment.length - fcsLen) header = some header
  /-- The payload. -/
  payload : segment.subspan header (segment.length - fcsLen - header) = payload

/-- A segment is read as it was laid down, if its header is. -/
theorem reads_appendFcs (header payload : Bytes) {command : UInt8} {size : ℕ}
    {session : UInt8} (hlen : 4 ≤ header.length) (hclass : header.byte 0 = commandClass)
    (hcommand : header.byte 1 &&& commandMask = command)
    (hsize : ((header.byte 1 &&& datagramSizeMask).toNat <<< 8) ||| (header.byte 2).toNat = size)
    (hsession : (header.byte 3 &&& sessionIdMask) >>> sessionIdShift = session)
    (hflag : header.byte 3 &&& extFlag = 0) :
    Reads (appendFcs (header ++ payload)) command size session header.length payload := by
  have hbyte : ∀ i < 4, (appendFcs (header ++ payload)).byte i = header.byte i :=
    fun i hi => byte_appendFcs payload (by omega)
  have hbody : (appendFcs (header ++ payload)).length - fcsLen =
      header.length + payload.length := by
    rw [length_appendFcs, fcsLen, Nat.add_sub_cancel, List.length_append]
  refine ⟨fcsValid_appendFcs ?_ ?_, ?_, ?_, ?_, ?_, ?_⟩
  · rw [List.length_append]
    omega
  · rw [hbyte 0 (by omega), hclass]
  · rw [hbyte 1 (by omega), hcommand]
  · unfold Assembler.declaredSize
    rw [hbyte 1 (by omega), hbyte 2 (by omega), hsize]
  · unfold Assembler.declaredSession
    rw [hbyte 3 (by omega), hsession]
  · unfold Assembler.payloadStart
    rw [hbyte 3 (by omega), hflag, if_neg (by simp), hbody, if_neg (by omega)]
  · rw [hbody, Nat.add_sub_cancel_left, subspan_appendFcs]

/-- The session id and the clear flag in the byte of a header that they share with an offset. -/
theorem sessionByte (sessionId high : UInt8) :
    ((sessionBits sessionId ||| (high &&& offsetHighMask)) &&& sessionIdMask) >>> sessionIdShift =
        sessionOf sessionId ∧
      (sessionBits sessionId ||| (high &&& offsetHighMask)) &&& extFlag = 0 ∧
      (sessionBits sessionId ||| (high &&& offsetHighMask)) &&& offsetHighMask =
        high &&& offsetHighMask := by
  unfold sessionOf sessionBits
  have hsession : offsetHighMask &&& sessionIdMask = 0 := by decide
  have hflag : sessionIdMask &&& extFlag = 0 ∧ offsetHighMask &&& extFlag = 0 := by decide
  have hoffset : sessionIdMask &&& offsetHighMask = 0 := by decide
  refine ⟨?_, ?_, ?_⟩
  · rw [and_or_and, hsession, UInt8.and_zero, UInt8.or_zero, UInt8.and_assoc]
  · rw [and_or_and, hflag.1, hflag.2, UInt8.and_zero, UInt8.and_zero, UInt8.or_zero]
  · rw [and_or_and, hoffset, UInt8.and_self, UInt8.and_zero, UInt8.zero_or]

/-- The assembler reads the FIRST_SEGMENT of a datagram as it was written: its size, its session and
the first bytes. -/
theorem reads_first (hle : datagram.length ≤ 2047) (sessionId : UInt8) :
    Reads (firstSegmentOf datagram sessionId) firstSegment datagram.length (sessionOf sessionId) 4
      (datagram.subspan 0 (min segmentPayloadMax datagram.length)) := by
  have hflag : sessionBits sessionId &&& extFlag = 0 := by
    unfold sessionBits
    rw [UInt8.and_assoc, show sessionIdMask &&& extFlag = 0 by decide, UInt8.and_zero]
  refine reads_appendFcs (segmentHeader datagram.length sessionId 0 true) _
    (by simp [segmentHeader]) rfl ?_ ?_ rfl hflag
  · exact firstSegment_command _
  · show ((firstSegment ||| sizeHigh datagram.length) &&& datagramSizeMask).toNat <<< 8 |||
      (sizeLow datagram.length).toNat = _
    rw [firstSegment_size]
    exact elevenBits (by omega)

/-- The assembler reads a SUBSEQUENT_SEGMENT of a datagram as it was written: its size, its session,
and the bytes from its offset on. -/
theorem reads_subsequent (hle : datagram.length ≤ 2047) (sessionId : UInt8) (offset : ℕ) :
    Reads (subsequentSegmentOf datagram sessionId offset) subsequentSegment datagram.length
      (sessionOf sessionId) 5
      (datagram.subspan offset (min segmentPayloadMax (datagram.length - offset))) := by
  obtain ⟨hsession, hflag, -⟩ := sessionByte sessionId (UInt8.ofNat (offset >>> 8))
  refine reads_appendFcs (segmentHeader datagram.length sessionId offset false) _
    (by simp [segmentHeader]) rfl ?_ ?_ hsession hflag
  · exact subsequentSegment_command _
  · show ((subsequentSegment ||| sizeHigh datagram.length) &&& datagramSizeMask).toNat <<< 8 |||
      (sizeLow datagram.length).toNat = _
    rw [subsequentSegment_size]
    exact elevenBits (by omega)

/-- The offset of a SUBSEQUENT_SEGMENT is read back. -/
theorem declaredOffset_subsequent (datagram : Bytes) (sessionId : UInt8) (h : offset < 2048) :
    Assembler.declaredOffset (subsequentSegmentOf datagram sessionId offset) = offset := by
  obtain ⟨-, -, hoffset⟩ := sessionByte sessionId (UInt8.ofNat (offset >>> 8))
  have hlen : (segmentHeader datagram.length sessionId offset false).length = 5 := by
    simp [segmentHeader]
  unfold Assembler.declaredOffset subsequentSegmentOf
  rw [byte_appendFcs _ (by omega), byte_appendFcs _ (by omega)]
  show ((sessionBits sessionId ||| (UInt8.ofNat (offset >>> 8) &&& offsetHighMask)) &&&
    offsetHighMask).toNat <<< 8 ||| (UInt8.ofNat (offset &&& 0xFF)).toNat = offset
  rw [hoffset]
  exact elevenBits h

/-! ## What the assembler does with it -/

/-- The assembler once a FIRST_SEGMENT of the datagram has been taken up. -/
def begun (datagram : Bytes) (sessionId : UInt8) : Assembler where
  active := true
  sessionId := sessionOf sessionId
  datagramSize := datagram.length
  receivedCount := 0
  buffer := List.replicate datagram.length 0
  received := List.replicate datagram.length false

/-- A payload starts behind the header, which is in the segment. -/
theorem le_of_payloadStart {segment : Bytes} {bodyLen header start : ℕ}
    (h : Assembler.payloadStart segment bodyLen header = some start) : header ≤ bodyLen := by
  unfold Assembler.payloadStart at h
  split_ifs at h
  · omega
  · omega

/-- A FIRST_SEGMENT starts the datagram over, whatever the assembler held. -/
theorem feedSegment_first (a : Assembler) (hpos : 0 < datagram.length)
    (hle : datagram.length ≤ 2047) (sessionId : UInt8) :
    a.feedSegment (firstSegmentOf datagram sessionId) =
      (begun datagram sessionId).place 0
        (datagram.subspan 0 (min segmentPayloadMax datagram.length)) := by
  have h := reads_first hle sessionId
  generalize firstSegmentOf datagram sessionId = segment at h
  have hlen : 4 ≤ segment.length - fcsLen := le_of_payloadStart h.start
  unfold Assembler.feedSegment Assembler.handleFirst
  rw [if_neg (not_not.mpr h.valid)]
  dsimp only
  rw [if_pos h.command, if_neg (Nat.not_lt.mpr hlen), h.start]
  dsimp only
  rw [h.size, h.session, if_neg (by omega), h.payload]
  rfl

/-- A SUBSEQUENT_SEGMENT is placed at its offset, if its session is in flight. -/
theorem feedSegment_subsequent {a : Assembler} (hactive : a.active = true)
    (hsession : a.sessionId = sessionOf sessionId) (hle : datagram.length ≤ 2047)
    (hoffset : offset < datagram.length) :
    a.feedSegment (subsequentSegmentOf datagram sessionId offset) =
      a.place offset (datagram.subspan offset (min segmentPayloadMax (datagram.length - offset))) := by
  have h := reads_subsequent hle sessionId offset
  have hdeclared : Assembler.declaredOffset (subsequentSegmentOf datagram sessionId offset) = offset :=
    declaredOffset_subsequent datagram sessionId (by omega)
  generalize subsequentSegmentOf datagram sessionId offset = segment at h hdeclared
  have hlen : 5 ≤ segment.length - fcsLen := le_of_payloadStart h.start
  have hfirst : subsequentSegment ≠ firstSegment := by decide
  unfold Assembler.feedSegment Assembler.handleSubsequent
  rw [if_neg (not_not.mpr h.valid)]
  dsimp only
  rw [h.command, if_neg hfirst, if_pos rfl, hactive, if_neg (by simpa using hlen), h.session,
    hsession, if_neg (by simp), h.start]
  dsimp only
  rw [hdeclared, h.payload]

/-- A SUBSEQUENT_SEGMENT is ignored when nothing is in flight. -/
theorem feedSegment_idle {a : Assembler} (hactive : a.active = false)
    (hle : datagram.length ≤ 2047) (sessionId : UInt8) (offset : ℕ) :
    a.feedSegment (subsequentSegmentOf datagram sessionId offset) = .ok (a, none) := by
  have h := reads_subsequent hle sessionId offset
  generalize subsequentSegmentOf datagram sessionId offset = segment at h
  have hfirst : subsequentSegment ≠ firstSegment := by decide
  unfold Assembler.feedSegment Assembler.handleSubsequent
  rw [if_neg (not_not.mpr h.valid)]
  dsimp only
  rw [h.command, if_neg hfirst, if_pos rfl, if_pos (Or.inl hactive)]

/-! ## The segments of a datagram -/

/-- Past the end of the datagram there are no more segments. -/
theorem splitFrom_of_le (first : Bool) (h : datagram.length ≤ offset) :
    splitFrom datagram sessionId offset first = [] := by
  rw [splitFrom, if_neg (Nat.not_lt.mpr h)]

/-- From the `k`-th piece on, the loop cuts one SUBSEQUENT_SEGMENT for each piece that there is. -/
theorem mem_splitFrom (datagram : Bytes) (sessionId : UInt8) (k : ℕ) (segment : Bytes) :
    segment ∈ splitFrom datagram sessionId (segmentPayloadMax * k) false ↔
      ∃ j, k ≤ j ∧ segmentPayloadMax * j < datagram.length ∧
        segment = subsequentSegmentOf datagram sessionId (segmentPayloadMax * j) := by
  induction hn : datagram.length - segmentPayloadMax * k using Nat.strong_induction_on
    generalizing k with
  | _ n ih =>
    by_cases hlt : segmentPayloadMax * k < datagram.length
    swap
    · rw [splitFrom_of_le _ (Nat.not_lt.mp hlt)]
      simp only [segmentPayloadMax, List.not_mem_nil, false_iff, not_exists, not_and] at hlt ⊢
      intros
      omega
    rw [splitFrom, if_pos hlt, List.mem_cons]
    -- The rest of the loop is about the pieces after this one, if there are any.
    have hrest : segment ∈ splitFrom datagram sessionId (segmentPayloadMax * k +
          min segmentPayloadMax (datagram.length - segmentPayloadMax * k)) false ↔
        ∃ j, k + 1 ≤ j ∧ segmentPayloadMax * j < datagram.length ∧
          segment = subsequentSegmentOf datagram sessionId (segmentPayloadMax * j) := by
      by_cases hmore : segmentPayloadMax ≤ datagram.length - segmentPayloadMax * k
      · rw [Nat.min_eq_left hmore, ← Nat.mul_succ]
        exact ih _ (by simp only [segmentPayloadMax] at *; omega) (k + 1) rfl
      · rw [splitFrom_of_le _ (by omega)]
        simp only [segmentPayloadMax, List.not_mem_nil, false_iff, not_exists, not_and] at hmore ⊢
        intros
        omega
    rw [hrest]
    constructor
    · rintro (rfl | ⟨j, hj, hlt', rfl⟩)
      · exact ⟨k, Nat.le_refl k, hlt, rfl⟩
      · exact ⟨j, by omega, hlt', rfl⟩
    · rintro ⟨j, hj, hlt', rfl⟩
      rcases Nat.eq_or_lt_of_le hj with rfl | hj
      · exact Or.inl rfl
      · exact Or.inr ⟨j, hj, hlt', rfl⟩

/-- A datagram is split into its FIRST_SEGMENT and one SUBSEQUENT_SEGMENT for each further piece. -/
theorem splitOutbound_eq (hpos : 0 < datagram.length) (sessionId : UInt8) :
    ∃ rest, splitOutbound datagram sessionId = firstSegmentOf datagram sessionId :: rest ∧
      ∀ segment, segment ∈ rest ↔ ∃ j, 1 ≤ j ∧ segmentPayloadMax * j < datagram.length ∧
        segment = subsequentSegmentOf datagram sessionId (segmentPayloadMax * j) := by
  refine ⟨splitFrom datagram sessionId (min segmentPayloadMax datagram.length) false, ?_, ?_⟩
  · rw [splitOutbound, if_neg (by omega), splitFrom, if_pos hpos]
    simp only [Nat.sub_zero, Nat.zero_add]
    rfl
  · intro segment
    by_cases hmore : segmentPayloadMax ≤ datagram.length
    · rw [Nat.min_eq_left hmore]
      exact mem_splitFrom datagram sessionId 1 segment
    · rw [splitFrom_of_le _ (by omega)]
      simp only [segmentPayloadMax, List.not_mem_nil, false_iff, not_exists, not_and] at hmore ⊢
      intros
      omega

end Segment

end Zwaved.TransportService
