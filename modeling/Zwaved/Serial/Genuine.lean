import Zwaved.Codec.Slices
import Zwaved.Serial.Delivery

/-!
# What the handler gets was on the wire

Whatever the port reads, however the reads cut it, and whatever is dropped on the way (what stands
behind an ACK in its chunk, what a new attempt to send finds in the parser, junk, frames with a bad
checksum), the parser makes up nothing: each frame that the incoming handler gets stood on the wire
byte for byte, no two of them overlap, and they come in the order of the wire. Each is acknowledged
once, right before it is handled, and nothing else is.

The parser holds a piece of the stream that ends where it is (`pending`). A byte lengthens it,
completes it to a frame, or gives up its front, and this is what `Consumes` carries over the calls.
-/

namespace Zwaved.Serial

open Reactive Codec

namespace ZwaveDataFrame

variable {parsed frame : ZwaveDataFrame} {buffer : Bytes}

/-- A type byte that is not refused is the byte of its type. -/
theorem toByte_of_le {typeRaw : UInt8} (h : ¬ typeRaw > FrameType.response.toByte) :
    (if typeRaw = FrameType.response.toByte then FrameType.response else .request).toByte =
      typeRaw := by
  split
  · next heq => exact heq.symm
  · next hne =>
    have hle : typeRaw.toNat ≤ 1 := UInt8.le_iff_toNat_le.mp (UInt8.not_lt.mp h)
    have hne' : typeRaw.toNat ≠ 1 := fun heq => hne (UInt8.toNat_inj.mp heq)
    refine UInt8.toNat_inj.mp (?_ : 0 = typeRaw.toNat)
    omega

/-- A buffer of the length that it gives, and that parses, is what the frame is written as. -/
theorem toBuffer_of_parseFromBuffer (h : parsed.parseFromBuffer buffer = (frame, true))
    (hlength : buffer.length = (buffer.byte 1).toNat + 2) :
    frame.valid = true ∧ frame.payload.length ≤ maxPayloadSize ∧ frame.toBuffer = buffer := by
  -- A buffer that parses holds the four bytes of the header at least.
  obtain ⟨start, length, type, command, rest, hbuffer⟩ :
      ∃ start length type command rest, buffer = start :: length :: type :: command :: rest := by
    rcases buffer with _ | ⟨start, _ | ⟨length, _ | ⟨type, _ | ⟨command, rest⟩⟩⟩⟩
    all_goals first
      | exact ⟨_, _, _, _, _, rfl⟩
      | simp [parseFromBuffer, minFrameSize] at h
  have hstart : buffer.byte 0 = start := by rw [hbuffer]; rfl
  have hlengthByte : buffer.byte 1 = length := by rw [hbuffer]; rfl
  have htypeByte : buffer.byte 2 = type := by rw [hbuffer]; rfl
  have hcommand : buffer.byte 3 = command := by rw [hbuffer]; rfl
  -- Each guard of the parser that has been passed says something about one of them.
  unfold parseFromBuffer at h
  rw [hstart, hlengthByte, htypeByte, hcommand] at h
  dsimp only at h
  generalize htypeEq : (if type = FrameType.response.toByte then FrameType.response
    else .request) = frameType at h
  split at h
  · cases h
  next hmin =>
  split at h
  · cases h
  next hsof =>
  split at h
  · cases h
  next hbounds =>
  split at h
  · cases h
  split at h
  · cases h
  next htype =>
  split at h
  · next hchecksum =>
    -- The last byte is the checksum, as the smallest frame has one.
    obtain ⟨payload, checksum, rfl⟩ : ∃ payload checksum, rest = payload ++ [checksum] := by
      refine (List.eq_nil_or_concat' rest).resolve_left fun hnil => hmin ?_
      rw [hbuffer, hnil]
      exact (by decide : 4 < minFrameSize)
    have hpayloadLength : length.toNat = payload.length + 3 := by
      rw [hlengthByte, hbuffer] at hlength
      simp only [List.length_cons, List.length_append, List.length_nil] at hlength
      omega
    have hpayload : buffer.subspan 4 (length.toNat - 3) = payload := by
      rw [hbuffer, hpayloadLength, Nat.add_sub_cancel]
      exact List.take_left
    have hlast : buffer.byte (1 + length.toNat) = checksum := by
      rw [hbuffer, hpayloadLength, show 1 + (payload.length + 3) = payload.length + 4 by omega]
      simp [Bytes.byte]
    -- With the buffer taken apart, what the parser kept is the payload, and what it compared is the
    -- checksum.
    rw [hpayload, hlast] at hchecksum
    rw [hpayload] at h
    cases h
    -- The bytes that `toBuffer` computes are those that were read.
    have hframeLength : UInt8.ofNat (2 + payload.length + 1) = length := by
      rw [show 2 + payload.length + 1 = length.toNat by omega, UInt8.ofNat_toNat]
    have htypeByte' : frameType.toByte = type := by
      rw [← htypeEq]
      exact toByte_of_le htype
    have hsum : checksum = ({ frameType, commandId := command, payload, valid := true } :
        ZwaveDataFrame).calculateChecksum := eq_of_beq hchecksum
    refine ⟨rfl, ?_, ?_⟩
    · simp only [maxPayloadSize] at hbounds ⊢
      omega
    · rw [toBuffer, ← hsum, frameLength, hframeLength, htypeByte', hbuffer, not_not.mp hsof]
      rfl
  · cases h

end ZwaveDataFrame

namespace FrameTransport

/-! ## What the parser holds -/

/-- The bytes of a frame that has begun. -/
def pending (t : FrameTransport) : Bytes :=
  match t.parseState with
  | .waitFrameStart => []
  | .waitLength | .waitPayload => t.frameBytes

/-- The parser holds the bytes that its state says. -/
structure Sound (t : FrameTransport) : Prop where
  /-- The start byte. -/
  start : t.parseState = .waitLength → t.frameBytes = [ZwaveDataFrame.sof]
  /-- The start byte, the length, and not yet all of the rest. -/
  rest : t.parseState = .waitPayload → ∃ length rest,
    t.frameBytes = ZwaveDataFrame.sof :: length :: rest ∧ t.expectedLength = 2 + length.toNat ∧
      rest.length < length.toNat

/-- A parser between frames is sound. -/
theorem Sound.of_idle {t : FrameTransport} (h : t.parseState = .waitFrameStart) : Sound t :=
  ⟨fun h' => absurd (h.symm.trans h') (by decide), fun h' => absurd (h.symm.trans h') (by decide)⟩

/-- A parser between frames holds no byte. -/
theorem pending_of_idle {t : FrameTransport} (h : t.parseState = .waitFrameStart) :
    t.pending = [] := by
  rw [pending, h]

/-- What a byte does to what the parser holds: it completes a frame, or, in every other case, a
front of it is given up. -/
structure Fed (t : FrameTransport) (byte : UInt8) (t' : FrameTransport) (event : TransportEvent) :
    Prop where
  /-- The parser holds what its state says. -/
  sound : Sound t'
  /-- A frame that is completed is what the parser held. -/
  frame : event = .dataFrame → t'.parseState = .waitFrameStart ∧ t'.lastParsedValid = true ∧
    t'.lastParsedFrame.valid = true ∧
    t'.lastParsedFrame.payload.length ≤ ZwaveDataFrame.maxPayloadSize ∧
    t.pending ++ [byte] = t'.lastParsedFrame.toBuffer
  /-- Otherwise what it holds is the end of what it held. -/
  gap : event ≠ .dataFrame → ∃ gap, t.pending ++ [byte] = gap ++ t'.pending
  /-- A control byte is none of a frame. -/
  control : event = .ack ∨ event = .nak ∨ event = .can → t'.parseState = .waitFrameStart

/-- A byte after which the parser is between frames, with no frame completed, gives up all that it
held. -/
theorem Fed.of_idle {t t' : FrameTransport} {byte : UInt8} {event : TransportEvent}
    (h : t'.parseState = .waitFrameStart) (hevent : event ≠ .dataFrame) : Fed t byte t' event where
  sound := Sound.of_idle h
  frame h' := absurd h' hevent
  gap _ := ⟨t.pending ++ [byte], by rw [pending_of_idle h, List.append_nil]⟩
  control _ := h

/-- A byte that the parser adds to what it holds gives nothing up. -/
theorem Fed.of_grown {t t' : FrameTransport} {byte : UInt8} (hsound : Sound t')
    (hpending : t'.pending = t.pending ++ [byte]) : Fed t byte t' .none where
  sound := hsound
  frame := nofun
  gap _ := ⟨[], by rw [hpending, List.nil_append]⟩
  control h := by simp at h

/-- A byte does to a sound parser what `Fed` says, by the state of the parser: it starts a frame, is
its length, is one of its bytes or completes it. -/
theorem Sound.feed {t : FrameTransport} (h : Sound t) (byte : UInt8) :
    Fed t byte (t.feed byte).1 (t.feed byte).2 := by
  unfold FrameTransport.feed
  cases hstate : t.parseState with
  | waitFrameStart =>
    dsimp only
    -- Between two frames a byte is ACK, NAK, CAN or the start of a frame, or it is dropped.
    split
    · exact Fed.of_idle hstate nofun
    split
    · exact Fed.of_idle hstate nofun
    split
    · exact Fed.of_idle hstate nofun
    split
    · next hsof =>
      refine Fed.of_grown ⟨fun _ => by rw [hsof], nofun⟩ ?_
      rw [pending_of_idle hstate]
      rfl
    · exact Fed.of_idle hstate nofun
  | waitLength =>
    have hstart := h.start hstate
    have hpending : t.pending = t.frameBytes := by rw [pending, hstate]
    dsimp only
    -- A length out of bounds drops the frame, and any other is written down as expected.
    split
    · exact Fed.of_idle rfl nofun
    · next hbounds =>
      have hlength : 3 ≤ byte.toNat :=
        UInt8.le_iff_toNat_le.mp (UInt8.not_lt.mp (not_or.mp hbounds).1)
      refine Fed.of_grown ⟨nofun, fun _ => ⟨byte, [], ?_, rfl, ?_⟩⟩ ?_
      · rw [hstart]
        rfl
      · exact Nat.lt_of_lt_of_le (by decide) hlength
      · rw [hpending]
        rfl
  | waitPayload =>
    obtain ⟨length, rest, hbytes, hexpected, hrest⟩ := h.rest hstate
    have hpending : t.pending = t.frameBytes := by rw [pending, hstate]
    have hgrown : (t.frameBytes ++ [byte]).length = rest.length + 3 := by
      rw [hbytes]
      simp
    dsimp only
    -- The byte is one of the frame, or its last.
    split
    · next hshort =>
      refine Fed.of_grown ⟨nofun, fun _ => ⟨length, rest ++ [byte], ?_, hexpected, ?_⟩⟩ ?_
      · rw [hbytes]
        rfl
      · rw [hgrown, hexpected] at hshort
        rw [List.length_append, List.length_singleton]
        omega
      · rw [hpending]
        rfl
    · next hfull =>
      -- The frame is complete: if it parses, what is written back is what was read.
      split
      · next hok =>
        have hlength : (t.frameBytes ++ [byte]).length =
            ((t.frameBytes ++ [byte] : Bytes).byte 1).toNat + 2 := by
          have hlengthByte : (t.frameBytes ++ [byte] : Bytes).byte 1 = length := by
            rw [hbytes]
            rfl
          rw [hgrown, hexpected] at hfull
          rw [hgrown, hlengthByte]
          omega
        obtain ⟨hvalid, hpayload, hbuffer⟩ := ZwaveDataFrame.toBuffer_of_parseFromBuffer
          (Prod.ext rfl hok) hlength
        exact ⟨Sound.of_idle rfl, fun _ => ⟨rfl, rfl, hvalid, hpayload, by rw [hpending, hbuffer]⟩,
          fun h' => absurd rfl h', fun h' => by simp at h'⟩
      · exact Fed.of_idle rfl nofun

/-! ## What is done with the bytes -/

/-- The acknowledgements, and the calls of the handler. -/
def answers : List Effect → List Effect
  | [] => []
  | .sendAck :: rest => .sendAck :: answers rest
  | .handle frame :: rest => .handle frame :: answers rest
  | _ :: rest => answers rest

/-- The acknowledgements and the calls of the handler come in the order of the effects. -/
theorem answers_append (xs ys : List Effect) : answers (xs ++ ys) = answers xs ++ answers ys := by
  induction xs with
  | nil => rfl
  | cons x xs ih => cases x <;> simp [answers, ih]

/-- The frames that are handled stand in the bytes, and each is acknowledged right before. -/
structure Genuine (effects : List Effect) (bytes : Bytes) : Prop where
  /-- They stand there as they would be written. -/
  slices : Slices ((handled effects).map ZwaveDataFrame.toBuffer) bytes
  /-- They are valid, and not too long. -/
  valid : ∀ frame ∈ handled effects,
    frame.valid = true ∧ frame.payload.length ≤ ZwaveDataFrame.maxPayloadSize
  /-- Each is acknowledged once, and nothing else is. -/
  answers : answers effects = (handled effects).flatMap fun frame => [.sendAck, .handle frame]

/-- What is genuine in two stretches of the stream is genuine in both together. -/
theorem Genuine.append {effects effects' : List Effect} {xs ys : Bytes} (h : Genuine effects xs)
    (h' : Genuine effects' ys) : Genuine (effects ++ effects') (xs ++ ys) where
  slices := by
    rw [handled_append, List.map_append]
    exact h.slices.append h'.slices
  valid frame hframe := by
    rw [handled_append, List.mem_append] at hframe
    exact hframe.elim (h.valid frame) (h'.valid frame)
  answers := by rw [answers_append, handled_append, List.flatMap_append, h.answers, h'.answers]

/-- Bytes of which nothing comes are genuine: they are a gap. -/
theorem Genuine.gap (bytes : Bytes) : Genuine [] bytes :=
  ⟨Slices.rest bytes, fun _ h => absurd h List.not_mem_nil, rfl⟩

/-- An effect that neither acknowledges nor handles leaves what is genuine. -/
theorem Genuine.cons {effects : List Effect} {bytes : Bytes} {effect : Effect}
    (h : Genuine effects bytes) (hanswers : FrameTransport.answers [effect] = [])
    (hhandled : handled [effect] = []) : Genuine (effect :: effects) bytes := by
  have hhead : Genuine [effect] [] := by
    refine ⟨?_, ?_, ?_⟩
    · rw [hhandled]
      exact Slices.rest []
    · rw [hhandled]
      exact fun _ hmem => absurd hmem List.not_mem_nil
    · rw [hanswers, hhandled]
      rfl
  exact hhead.append h

/-- The parser takes in the bytes, and what it has given up of all that it held has been handled or
is no frame. -/
structure Consumes (t : FrameTransport) (bytes : Bytes) (t' : FrameTransport)
    (effects : List Effect) : Prop where
  /-- The parser holds what its state says. -/
  sound : Sound t'
  /-- What it has given up. -/
  genuine : ∃ past, t.pending ++ bytes = past ++ t'.pending ∧ Genuine effects past

section Consumes

variable {t t' t'' : FrameTransport} {xs ys : Bytes} {effects effects' : List Effect}

/-- A parser that takes in two stretches of bytes one after the other takes in both together. -/
theorem Consumes.append (h : Consumes t xs t' effects) (h' : Consumes t' ys t'' effects') :
    Consumes t (xs ++ ys) t'' (effects ++ effects') := by
  obtain ⟨past, hpast, hgenuine⟩ := h.genuine
  obtain ⟨past', hpast', hgenuine'⟩ := h'.genuine
  refine ⟨h'.sound, past ++ past', ?_, hgenuine.append hgenuine'⟩
  rw [← List.append_assoc, hpast, List.append_assoc, hpast', List.append_assoc]

/-- A parser that takes in nothing gives up nothing. -/
theorem Sound.consumes_nil (h : Sound t) : Consumes t [] t [] :=
  ⟨h, [], List.append_nil _, Genuine.gap []⟩

/-- Bytes that are not looked at while the parser is between frames are given up: they are a gap. -/
theorem Consumes.skip (h : Consumes t xs t' effects) (hidle : t'.parseState = .waitFrameStart)
    (tail : Bytes) : Consumes t (xs ++ tail) t' effects := by
  have htail : Consumes t' tail t' [] :=
    ⟨h.sound, tail, by rw [pending_of_idle hidle, List.append_nil, List.nil_append],
      Genuine.gap tail⟩
  have happend := h.append htail
  rwa [List.append_nil] at happend

/-- A byte that completes no frame is taken in without effect. -/
theorem Sound.byte (h : Sound t) {byte : UInt8} (hevent : (t.feed byte).2 ≠ .dataFrame) :
    Consumes t [byte] (t.feed byte).1 [] := by
  have hfed := h.feed byte
  obtain ⟨gap, hgap⟩ := hfed.gap hevent
  exact ⟨hfed.sound, gap, hgap, Genuine.gap gap⟩

/-- A byte that completes a frame is taken in, and the frame is acknowledged and handled if it is
valid. -/
theorem Sound.lastByte (h : Sound t) {byte : UInt8} (hevent : (t.feed byte).2 = .dataFrame) :
    Consumes t [byte] (t.feed byte).1.handleParsedDataFrame.1
      (t.feed byte).1.handleParsedDataFrame.2 := by
  obtain ⟨hidle, hnew, hvalid, hpayload, hbuffer⟩ := (h.feed byte).frame hevent
  rw [handleParsedDataFrame, if_pos hnew]
  refine ⟨Sound.of_idle hidle, _, ?_, ⟨Slices.self _, ?_, rfl⟩⟩
  · rw [hbuffer, pending_of_idle (t := { (t.feed byte).1 with lastParsedValid := false }) hidle,
      List.append_nil]
  · rintro frame hframe
    rw [List.mem_singleton.mp hframe]
    exact ⟨hvalid, hpayload⟩

/-- A pump takes in its bytes and handles the frames that they complete. -/
theorem Sound.pumpBytes (h : Sound t) (bytes : Bytes) :
    Consumes t bytes (t.pumpBytes bytes).1 (t.pumpBytes bytes).2 := by
  induction bytes generalizing t with
  | nil => exact h.consumes_nil
  | cons byte bytes ih =>
    unfold FrameTransport.pumpBytes
    dsimp only
    split
    · next hevent =>
      have hbyte := h.lastByte hevent
      exact hbyte.append (ih hbyte.sound)
    · next hevent =>
      have hbyte := h.byte hevent
      exact hbyte.append (ih hbyte.sound)

/-- A wait for an acknowledgement takes in its bytes as well, and handles the frames before the one
that it ends at. -/
theorem Sound.awaitBytes (h : Sound t) (bytes : Bytes) :
    Consumes t bytes (t.awaitBytes bytes).1 (t.awaitBytes bytes).2.1 := by
  induction bytes generalizing t with
  | nil => exact h.consumes_nil
  | cons byte bytes ih =>
    have hfed := h.feed byte
    unfold FrameTransport.awaitBytes
    dsimp only
    split
    · next hevent =>
      exact (h.byte (by rw [hevent]; nofun)).skip (hfed.control (Or.inl hevent)) bytes
    · next hevent =>
      exact (h.byte (by rw [hevent]; nofun)).skip (hfed.control (Or.inr (Or.inl hevent))) bytes
    · next hevent =>
      exact (h.byte (by rw [hevent]; nofun)).skip (hfed.control (Or.inr (Or.inr hevent))) bytes
    · next hevent =>
      have hbyte := h.lastByte hevent
      exact hbyte.append (ih hbyte.sound)
    · next hevent =>
      have hbyte := h.byte (by rw [hevent]; nofun)
      exact hbyte.append (ih hbyte.sound)

/-- The read of a chunk in front of what is done with it takes in the chunk. -/
theorem Consumes.read {chunk : Bytes} (h : Consumes t chunk t' effects)
    (hstream : stream effects = []) :
    Consumes t (stream (.read chunk :: effects)) t' (.read chunk :: effects) := by
  obtain ⟨past, hpast, hgenuine⟩ := h.genuine
  refine ⟨h.sound, past, ?_, hgenuine.cons rfl rfl⟩
  rw [stream, hstream, List.append_nil, hpast]

/-- A write or a new attempt in front of what is done takes in no bytes. -/
theorem Consumes.cons {effect : Effect} (h : Consumes t (stream effects) t' effects)
    (heffect : effect = .retry ∨ ∃ bytes, effect = .write bytes) :
    Consumes t (stream (effect :: effects)) t' (effect :: effects) := by
  obtain ⟨past, hpast, hgenuine⟩ := h.genuine
  rcases heffect with rfl | ⟨bytes, rfl⟩
  · exact ⟨h.sound, past, hpast, hgenuine.cons rfl rfl⟩
  · exact ⟨h.sound, past, hpast, hgenuine.cons rfl rfl⟩

/-- A wait that spans several reads takes in all that it has read, up to the read that it ends
at. -/
theorem Sound.awaitReads (h : Sound t) (reads : List Bytes) :
    Consumes t (stream (t.awaitReads reads).2.1) (t.awaitReads reads).1
      (t.awaitReads reads).2.1 := by
  induction reads generalizing t with
  | nil => exact h.consumes_nil
  | cons chunk reads ih =>
    have hchunk := (h.awaitBytes chunk).read (stream_awaitBytes t chunk)
    unfold FrameTransport.awaitReads
    split
    · next t' effects heq =>
      rw [heq] at hchunk
      have hrest := hchunk.append (ih hchunk.sound)
      rw [← stream_append] at hrest
      exact hrest
    · next t' effects wait _ heq =>
      rw [heq] at hchunk
      exact hchunk

/-- A new attempt gives up what the parser holds. -/
theorem consumes_resetParser (t : FrameTransport) : Consumes t [] t.resetParser [] :=
  ⟨Sound.of_idle rfl, t.pending, rfl, Genuine.gap t.pending⟩

/-- A send takes in what it reads while it waits, over all its attempts: a parser that starts anew
gives up what it held. -/
theorem Sound.sendAttempts (h : Sound t) (bytes : Bytes) (first : Bool) (attempts : List Attempt) :
    Consumes t (stream (t.sendAttempts bytes first attempts).2.1)
      (t.sendAttempts bytes first attempts).1 (t.sendAttempts bytes first attempts).2.1 := by
  -- Each attempt reads on where the last one stopped.
  induction attempts generalizing t first with
  | nil => exact h.consumes_nil
  | cons attempt attempts ih =>
    -- The parser starts afresh before each attempt but the first, which consumes nothing.
    have hready : Consumes t [] (if first then t else t.resetParser) [] := by
      split
      · exact h.consumes_nil
      · exact consumes_resetParser t
    have hreads := hready.sound.awaitReads attempt.reads
    unfold FrameTransport.sendAttempts
    dsimp only
    generalize (if first then t else t.resetParser) = ready at hready hreads ⊢
    split
    -- The port took the bytes: either the reads bring the answer, or the next attempt follows.
    · split
      · next t' effects tail heq =>
        rw [heq] at hreads
        have hall := hready.append hreads
        exact hall.cons (Or.inr ⟨bytes, rfl⟩)
      · next t' effects wait _ heq =>
        rw [heq] at hreads
        have hrest := (ih hreads.sound false).cons (Or.inl rfl)
        have hall := (hready.append hreads).append hrest
        rw [List.nil_append, List.nil_append, ← stream_append] at hall
        exact hall.cons (Or.inr ⟨bytes, rfl⟩)
    -- The write failed, so nothing is read before the next attempt.
    · have hall := hready.append (ih hready.sound false)
      exact hall.cons (Or.inl rfl)

end Consumes

/-- Every call of the transport takes in the bytes that it reads, and handles what is genuine among
them. -/
theorem Sound.step {t : FrameTransport} (h : Sound t) (call : Call) :
    Consumes t (stream (step t call).2) (step t call).1 (step t call).2 := by
  cases call with
  | pump chunk => exact (h.pumpBytes chunk).read (stream_pumpBytes t chunk)
  | send frame attempts => exact h.sendAttempts frame.toBuffer true attempts.toList

/-- Any calls take in the bytes that they read, and handle what is genuine among them. -/
theorem Sound.calls {t : FrameTransport} (h : Sound t) (calls : List Call) :
    Consumes t (stream (emitted FrameTransport.step t calls)) (exec FrameTransport.step t calls)
      (emitted FrameTransport.step t calls) := by
  induction calls using List.reverseRecOn with
  | nil => exact h.consumes_nil
  | append_singleton calls call ih =>
    rw [emitted_concat, exec_concat, stream_append]
    exact ih.append (ih.sound.step call)

/-- In every run of calls, whatever the port reads and however often a send is tried, the frames
that the handler gets stood in the stream as they would be written, in this order and none over
another, they are valid, and each was acknowledged once, right before it was handled, and nothing
else was. -/
theorem handled_genuine (calls : List Call) :
    Genuine (emitted step {} calls) (stream (emitted step {} calls)) := by
  have hidle : Sound {} := Sound.of_idle rfl
  obtain ⟨past, hpast, hgenuine⟩ := (hidle.calls calls).genuine
  have hstream : stream (emitted step {} calls) = past ++ (exec step {} calls).pending := hpast
  rw [hstream]
  exact ⟨hgenuine.slices.append_gap _, hgenuine.valid, hgenuine.answers⟩

end FrameTransport

end Zwaved.Serial
