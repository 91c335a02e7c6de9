import Zwaved.Serial.DataFrame

/-!
# The serial transport

`FrameTransport.cpp`. `feed` parses the bytes of the link one at a time: between frames an ACK, NAK
or CAN byte is an event of its own, and a start byte opens a frame, whose length byte says where it
ends. `pumpOnce` reads a chunk and feeds all of it. `sendRequest` writes a frame and feeds what it
reads until the ACK comes; what stands behind the ACK in the same chunk it does not look at.

What the port does is an input: which bytes a read returns, whether a write succeeds, and what a
flush discards.
-/

namespace Zwaved.Serial

/-- `ZwaveACCFrame::ACK`. -/
def ack : UInt8 := 0x06

/-- `ZwaveNAKFrame::NAK`. -/
def nak : UInt8 := 0x15

/-- `ZwaveCANFrame::CAN`. -/
def can : UInt8 := 0x18

/-- `ParseState`. -/
inductive ParseState
  /-- `WaitFrameStart`. -/
  | waitFrameStart
  /-- `WaitLength`. -/
  | waitLength
  /-- `WaitPayload`. -/
  | waitPayload
  deriving DecidableEq, Repr

/-- `TransportEvent`. -/
inductive TransportEvent
  /-- `None`. -/
  | none
  /-- `Ack`. -/
  | ack
  /-- `Nak`. -/
  | nak
  /-- `Can`. -/
  | can
  /-- `DataFrame`. -/
  | dataFrame
  deriving DecidableEq, Repr

/-- `FrameTransport`: the state of the parser, and the last frame that it parsed. -/
structure FrameTransport where
  /-- `parseState`. -/
  parseState : ParseState := .waitFrameStart
  /-- `expectedLength`. -/
  expectedLength : ℕ := 0
  /-- `frameBytes`. -/
  frameBytes : Bytes := []
  /-- `lastParsedFrame`. -/
  lastParsedFrame : ZwaveDataFrame := {}
  /-- `lastParsedValid`: the last frame has not been handled yet. -/
  lastParsedValid : Bool := false
  deriving DecidableEq, Repr

namespace FrameTransport

/-- `resetParser`. -/
def resetParser (t : FrameTransport) : FrameTransport :=
  { t with
    parseState := .waitFrameStart
    expectedLength := 0
    frameBytes := []
    lastParsedValid := false }

/-- `feed`. -/
def feed (t : FrameTransport) (byte : UInt8) : FrameTransport × TransportEvent :=
  match t.parseState with
  | .waitFrameStart =>
    if byte = ack then (t, .ack)
    else if byte = nak then (t, .nak)
    else if byte = can then (t, .can)
    else if byte = ZwaveDataFrame.sof then
      ({ t with frameBytes := [byte], parseState := .waitLength }, .none)
    -- Anything else is junk.
    else (t, .none)
  | .waitLength =>
    let t := { t with
      frameBytes := t.frameBytes ++ [byte]
      expectedLength := 2 + byte.toNat }
    if byte < 3 ∨ t.expectedLength > ZwaveDataFrame.maxFrameSize then (t.resetParser, .none)
    else ({ t with parseState := .waitPayload }, .none)
  | .waitPayload =>
    let t := { t with frameBytes := t.frameBytes ++ [byte] }
    if t.frameBytes.length < t.expectedLength then (t, .none)
    else
      let (parsed, parseOk) := ({} : ZwaveDataFrame).parseFromBuffer t.frameBytes
      let t := t.resetParser
      if parseOk then ({ t with lastParsedFrame := parsed, lastParsedValid := true }, .dataFrame)
      else (t, .none)

/-- What the transport does to the world around it. -/
inductive Effect
  /-- `readBytes` returned these bytes. -/
  | read (chunk : Bytes)
  /-- An ACK is written. -/
  | sendAck
  /-- A request frame is written. -/
  | write (bytes : Bytes)
  /-- The incoming handler is called. -/
  | handle (frame : ZwaveDataFrame)
  /-- An attempt to send is given up. -/
  | retry
  deriving DecidableEq, Repr

/-- `handleParsedDataFrame`. -/
def handleParsedDataFrame (t : FrameTransport) : FrameTransport × List Effect :=
  if t.lastParsedValid then
    ({ t with lastParsedValid := false }, [.sendAck, .handle t.lastParsedFrame])
  else (t, [])

/-- `READ_CHUNK_SIZE`: the most that a read returns. -/
def readChunkSize : ℕ := 64

/-- The loop of `pumpOnce` over a chunk. An ACK, NAK or CAN outside a send is dropped. -/
def pumpBytes (t : FrameTransport) : Bytes → FrameTransport × List Effect
  | [] => (t, [])
  | byte :: bytes =>
    let (t, event) := t.feed byte
    let (t, handled) := if event = .dataFrame then t.handleParsedDataFrame else (t, [])
    let (t, effects) := t.pumpBytes bytes
    (t, handled ++ effects)

/-- `pumpOnce`, where the read returns `chunk`; nothing was read if that is empty. -/
def pumpOnce (t : FrameTransport) (chunk : Bytes) : FrameTransport × List Effect :=
  let (t, effects) := t.pumpBytes chunk
  (t, .read chunk :: effects)

/-- How the bytes of a chunk, or the reads of an attempt, end for a send. -/
inductive Wait
  /-- The ACK came, and this is what stood behind it in its chunk. -/
  | acked (tail : Bytes)
  /-- A NAK or CAN came. -/
  | refused
  /-- Neither came. -/
  | more
  deriving DecidableEq, Repr

/-- The inner loop of `sendRequest`, over a chunk: it ends at an ACK, NAK or CAN. -/
def awaitBytes (t : FrameTransport) : Bytes → FrameTransport × List Effect × Wait
  | [] => (t, [], .more)
  | byte :: bytes =>
    let (t, event) := t.feed byte
    match event with
    | .ack => (t, [], .acked bytes)
    | .nak | .can => (t, [], .refused)
    | .dataFrame =>
      let (t, handled) := t.handleParsedDataFrame
      let (t, effects, wait) := t.awaitBytes bytes
      (t, handled ++ effects, wait)
    | .none => t.awaitBytes bytes

/-- The reads of one attempt, until the deadline. -/
def awaitReads (t : FrameTransport) : List Bytes → FrameTransport × List Effect × Wait
  | [] => (t, [], .more)
  | chunk :: chunks =>
    match t.awaitBytes chunk with
    | (t, effects, .more) =>
      let (t, effects', wait) := t.awaitReads chunks
      (t, .read chunk :: effects ++ effects', wait)
    | (t, effects, wait) => (t, .read chunk :: effects, wait)

/-- What the port does in one attempt to send. -/
structure Attempt where
  /-- Whether the write succeeds. -/
  written : Bool
  /-- What the reads return until the deadline passes. -/
  reads : List Bytes

/-- The attempts of `sendRequest`. Every attempt but the first flushes the input and resets the
parser. -/
def sendAttempts (t : FrameTransport) (bytes : Bytes) (first : Bool) :
    List Attempt → FrameTransport × List Effect × Bool
  | [] => (t, [], false)
  | attempt :: attempts =>
    let t := if first then t else t.resetParser
    if attempt.written then
      match t.awaitReads attempt.reads with
      | (t, effects, .acked _) => (t, .write bytes :: effects, true)
      | (t, effects, _) =>
        let (t, effects', sent) := t.sendAttempts bytes false attempts
        (t, .write bytes :: effects ++ .retry :: effects', sent)
    else
      let (t, effects, sent) := t.sendAttempts bytes false attempts
      (t, .retry :: effects, sent)

/-- `MAX_SEND_RETRIES`. -/
def maxSendRetries : ℕ := 3

/-- `sendRequest`. -/
def sendRequest (t : FrameTransport) (frame : ZwaveDataFrame)
    (attempts : Vector Attempt maxSendRetries) : FrameTransport × List Effect × Bool :=
  t.sendAttempts frame.toBuffer true attempts.toList

/-! ## Byte by byte -/

/-- What a byte brings in: nothing yet, a control byte, or a frame. -/
inductive Received
  /-- Nothing, or nothing yet. -/
  | nothing
  /-- An ACK. -/
  | ack
  /-- A NAK. -/
  | nak
  /-- A CAN. -/
  | can
  /-- A data frame. -/
  | frame (frame : ZwaveDataFrame)
  deriving DecidableEq, Repr

/-- What an event of `feed` brings in. -/
def received (t : FrameTransport) : TransportEvent → Received
  | .none => .nothing
  | .ack => .ack
  | .nak => .nak
  | .can => .can
  | .dataFrame => .frame t.lastParsedFrame

/-- `feed`, one byte after another, with what each byte brings in. -/
def feedAll (t : FrameTransport) : Bytes → FrameTransport × List Received
  | [] => (t, [])
  | byte :: bytes =>
    let (t, event) := t.feed byte
    ((t.feedAll bytes).1, t.received event :: (t.feedAll bytes).2)

/-- No bytes leave the parser and bring nothing in. -/
@[simp] theorem feedAll_nil (t : FrameTransport) : t.feedAll [] = (t, []) := rfl

/-- A first byte is fed, and the rest to the parser that it leads to. -/
theorem feedAll_cons {t t' : FrameTransport} {byte : UInt8} {event : TransportEvent}
    (h : t.feed byte = (t', event)) (bytes : Bytes) :
    t.feedAll (byte :: bytes) = ((t'.feedAll bytes).1, t'.received event :: (t'.feedAll bytes).2) := by
  simp only [feedAll, h]

/-- Of two stretches of bytes the second is fed to the parser that the first leads to. -/
theorem feedAll_append (t : FrameTransport) (xs ys : Bytes) :
    t.feedAll (xs ++ ys) = (((t.feedAll xs).1.feedAll ys).1,
      (t.feedAll xs).2 ++ ((t.feedAll xs).1.feedAll ys).2) := by
  induction xs generalizing t with
  | nil => rfl
  | cons byte xs ih => simp only [List.cons_append, feedAll, ih]

/-! ## Frames come back -/

section Frames

variable {t : FrameTransport} {frame : ZwaveDataFrame}

/-- The bytes of a frame before its last leave the parser waiting. -/
theorem feedAll_waitPayload (bytes : Bytes) (h : t.parseState = .waitPayload)
    (hshort : t.frameBytes.length + bytes.length < t.expectedLength) :
    t.feedAll bytes = ({ t with frameBytes := t.frameBytes ++ bytes },
      List.replicate bytes.length .nothing) := by
  induction bytes generalizing t with
  | nil => simp
  | cons byte bytes ih =>
    rw [List.length_cons] at hshort
    have hfeed : t.feed byte = ({ t with frameBytes := t.frameBytes ++ [byte] }, .none) := by
      unfold feed
      rw [h]
      dsimp only
      rw [List.length_append, List.length_singleton, if_pos (by omega)]
    have hrest := @ih { t with frameBytes := t.frameBytes ++ [byte] } h
      (by simp only [List.length_append, List.length_singleton]; omega)
    rw [feedAll_cons hfeed, hrest]
    simp [received, List.replicate_succ]

/-- From between two frames, the start byte and the length make the parser expect the rest of the
frame. -/
theorem feedAll_start (h : t.parseState = .waitFrameStart)
    (hfits : frame.payload.length ≤ ZwaveDataFrame.maxPayloadSize) :
    t.feedAll [ZwaveDataFrame.sof, frame.frameLength] =
      ({ t with
        frameBytes := [ZwaveDataFrame.sof, frame.frameLength]
        expectedLength := frame.payload.length + 5
        parseState := .waitPayload }, [.nothing, .nothing]) := by
  have hlength := ZwaveDataFrame.frameLength_toNat hfits
  -- The first byte opens the frame, and the second one says how long it is.
  have hstart : t.feed ZwaveDataFrame.sof =
      ({ t with frameBytes := [ZwaveDataFrame.sof], parseState := .waitLength }, .none) := by
    unfold feed
    rw [h]
    rfl
  -- The length of a frame that fits is within the bounds of the parser.
  have hthree : ¬ frame.frameLength < 3 := by
    rw [UInt8.lt_iff_toNat_lt, hlength]
    simp
  have hmax : ¬ 2 + (frame.payload.length + 3) > ZwaveDataFrame.maxFrameSize := by
    simp only [ZwaveDataFrame.maxFrameSize]
    omega
  rw [feedAll_cons hstart]
  simp only [feedAll, feed, hlength, hthree, hmax, or_self, if_false]
  simp only [received, List.cons_append, List.nil_append]
  congr 2
  omega

/-- The last byte of a frame brings the frame in, valid, and leaves the parser between frames. -/
theorem feed_last (frame : ZwaveDataFrame) {last : UInt8} (h : t.parseState = .waitPayload)
    (hbytes : t.frameBytes ++ [last] = frame.toBuffer)
    (hlength : t.expectedLength = frame.payload.length + 5)
    (hfits : frame.payload.length ≤ ZwaveDataFrame.maxPayloadSize) :
    t.feed last = ({ t.resetParser with
      lastParsedFrame := { frame with valid := true }
      lastParsedValid := true }, .dataFrame) := by
  unfold feed
  rw [h]
  dsimp only
  rw [hbytes, ZwaveDataFrame.length_toBuffer, hlength, if_neg (by omega),
    ZwaveDataFrame.parseFromBuffer_toBuffer _ hfits]
  rfl

/-- A frame comes in with its last byte, and the parser waits for the next one. -/
theorem feedAll_toBuffer (h : t.parseState = .waitFrameStart)
    (hfits : frame.payload.length ≤ ZwaveDataFrame.maxPayloadSize) :
    (t.feedAll frame.toBuffer).1.parseState = .waitFrameStart ∧
      (t.feedAll frame.toBuffer).2 = List.replicate (frame.payload.length + 4) .nothing ++
        [.frame { frame with valid := true }] := by
  have hsplit : frame.toBuffer = [ZwaveDataFrame.sof, frame.frameLength] ++
      (frame.frameType.toByte :: frame.commandId :: frame.payload ++ [frame.calculateChecksum]) := by
    simp [ZwaveDataFrame.toBuffer]
  rw [hsplit, feedAll_append, feedAll_start h hfits]
  dsimp only
  generalize hopened : { t with
    frameBytes := [ZwaveDataFrame.sof, frame.frameLength]
    expectedLength := frame.payload.length + 5
    parseState := ParseState.waitPayload } = u
  have hstate : u.parseState = .waitPayload := by rw [← hopened]
  have hbytes : u.frameBytes = [ZwaveDataFrame.sof, frame.frameLength] := by rw [← hopened]
  have hlength : u.expectedLength = frame.payload.length + 5 := by rw [← hopened]
  -- All but the checksum, and then the checksum.
  rw [feedAll_append, feedAll_waitPayload _ hstate (by simp [hbytes, hlength]; omega)]
  generalize hread : { u with
    frameBytes := u.frameBytes ++ frame.frameType.toByte :: frame.commandId :: frame.payload } = v
  have hlast : v.feed frame.calculateChecksum = ({ v.resetParser with
      lastParsedFrame := { frame with valid := true }
      lastParsedValid := true }, .dataFrame) := by
    refine feed_last frame ?_ ?_ ?_ hfits
    · rw [← hread, ← hstate]
    · rw [← hread]
      simp [hbytes, ZwaveDataFrame.toBuffer]
    · rw [← hread, ← hlength]
  rw [feedAll_cons hlast]
  refine ⟨rfl, ?_⟩
  simp only [feedAll_nil, received, List.length_cons, List.replicate_succ, List.cons_append,
    List.nil_append]

end Frames

/-- What can stand on the link. -/
inductive Item
  /-- An ACK byte. -/
  | ack
  /-- A NAK byte. -/
  | nak
  /-- A CAN byte. -/
  | can
  /-- A byte that means nothing between frames. -/
  | junk (byte : UInt8) (ack : byte ≠ Serial.ack) (nak : byte ≠ Serial.nak)
    (can : byte ≠ Serial.can) (sof : byte ≠ ZwaveDataFrame.sof)
  /-- A data frame whose payload is not too long. -/
  | frame (frame : ZwaveDataFrame)
    (fits : frame.payload.length ≤ ZwaveDataFrame.maxPayloadSize)

/-- The bytes of an item. -/
def Item.bytes : Item → Bytes
  | .ack => [Serial.ack]
  | .nak => [Serial.nak]
  | .can => [Serial.can]
  | .junk byte _ _ _ _ => [byte]
  | .frame data _ => data.toBuffer

/-- What the bytes of an item bring in, a frame with its last byte. -/
def Item.received : Item → List Received
  | .ack => [.ack]
  | .nak => [.nak]
  | .can => [.can]
  | .junk _ _ _ _ _ => [.nothing]
  | .frame data _ => List.replicate (data.toBuffer.length - 1) .nothing ++
      [.frame { data with valid := true }]

/-- A single byte that leaves the parser between frames brings in the event that it stands for. -/
theorem feedAll_control {t : FrameTransport} (h : t.parseState = .waitFrameStart) {byte : UInt8}
    {event : TransportEvent} (hfeed : t.feed byte = (t, event)) :
    (t.feedAll [byte]).1.parseState = .waitFrameStart ∧
      (t.feedAll [byte]).2 = [t.received event] := by
  rw [feedAll_cons hfeed]
  exact ⟨h, rfl⟩

/-- A parser between frames receives exactly what an item stands for, and is between frames
again. -/
theorem feedAll_item (item : Item) {t : FrameTransport} (h : t.parseState = .waitFrameStart) :
    (t.feedAll item.bytes).1.parseState = .waitFrameStart ∧
      (t.feedAll item.bytes).2 = item.received := by
  cases item with
  | ack =>
    have hfeed : t.feed Serial.ack = (t, .ack) := by simp [feed, h]
    exact feedAll_control h hfeed
  | nak =>
    have hfeed : t.feed Serial.nak = (t, .nak) := by simp [feed, h, Serial.ack, Serial.nak]
    exact feedAll_control h hfeed
  | can =>
    have hfeed : t.feed Serial.can = (t, .can) := by
      simp [feed, h, Serial.ack, Serial.nak, Serial.can]
    exact feedAll_control h hfeed
  | junk byte hack hnak hcan hsof =>
    have hfeed : t.feed byte = (t, .none) := by simp [feed, h, hack, hnak, hcan, hsof]
    exact feedAll_control h hfeed
  | frame frame hfits =>
    obtain ⟨hstate, hreceived⟩ := feedAll_toBuffer h hfits
    refine ⟨hstate, hreceived.trans ?_⟩
    rw [Item.received, ZwaveDataFrame.length_toBuffer, Nat.add_sub_assoc (by decide)]

/-- Between frames, the parser takes every sequence of items apart as it was put together. -/
theorem feedAll_items (items : List Item) (t : FrameTransport)
    (h : t.parseState = .waitFrameStart) :
    (t.feedAll (items.flatMap Item.bytes)).1.parseState = .waitFrameStart ∧
      (t.feedAll (items.flatMap Item.bytes)).2 = items.flatMap Item.received := by
  induction items generalizing t with
  | nil => exact ⟨h, rfl⟩
  | cons item items ih =>
    obtain ⟨hstate, hreceived⟩ := feedAll_item item h
    obtain ⟨hstate', hreceived'⟩ := ih _ hstate
    rw [List.flatMap_cons, List.flatMap_cons, feedAll_append]
    refine ⟨hstate', ?_⟩
    rw [hreceived, hreceived']

/-- An ACK, a junk byte, and a frame with a start byte and an ACK in its payload. -/
theorem feedAll_ackJunkFrame :
    (({} : FrameTransport).feedAll (Serial.ack :: 0x42 ::
        ZwaveDataFrame.toBuffer { frameType := .response, commandId := 0x13, payload := [1, 6] })).2 =
      [.ack, .nothing, .nothing, .nothing, .nothing, .nothing, .nothing, .nothing,
        .frame { frameType := .response, commandId := 0x13, payload := [1, 6], valid := true }] :=
  (feedAll_items [.ack, .junk 0x42 (by decide) (by decide) (by decide) (by decide),
    .frame { frameType := .response, commandId := 0x13, payload := [1, 6] } (by decide)] {} rfl).2

/-! ## What is written -/

/-- Handling a parsed frame writes no request: it writes an acknowledgement at most. -/
theorem write_notMem_handleParsedDataFrame (t : FrameTransport) (bytes : Bytes) :
    .write bytes ∉ t.handleParsedDataFrame.2 := by
  unfold handleParsedDataFrame
  split <;> simp

/-- Working through bytes while waiting writes no request. -/
theorem write_notMem_awaitBytes (t : FrameTransport) (chunk bytes : Bytes) :
    .write bytes ∉ (t.awaitBytes chunk).2.1 := by
  induction chunk generalizing t with
  | nil => simp [awaitBytes]
  | cons byte chunk ih =>
    rw [awaitBytes]
    generalize t.feed byte = fed
    obtain ⟨t', event⟩ := fed
    cases event with
    | ack | nak | can => simp
    | dataFrame =>
      intro hmem
      rcases List.mem_append.mp hmem with hmem | hmem
      · exact write_notMem_handleParsedDataFrame t' bytes hmem
      · exact ih _ hmem
    | none => exact ih t'

/-- A wait writes no request. -/
theorem write_notMem_awaitReads (t : FrameTransport) (chunks : List Bytes) (bytes : Bytes) :
    .write bytes ∉ (t.awaitReads chunks).2.1 := by
  induction chunks generalizing t with
  | nil => simp [awaitReads]
  | cons chunk chunks ih =>
    have hchunk := write_notMem_awaitBytes t chunk bytes
    rw [awaitReads]
    generalize t.awaitBytes chunk = result at hchunk ⊢
    obtain ⟨t', effects, wait⟩ := result
    cases wait with
    | acked tail => simpa using hchunk
    | refused => simpa using hchunk
    | more =>
      intro hmem
      rcases List.mem_cons.mp hmem with hmem | hmem
      · cases hmem
      · exact (List.mem_append.mp hmem).elim hchunk (ih t')

/-- The frame is written, and nothing else is, as soon as the port accepts a write. -/
theorem write_mem_sendAttempts_iff (t : FrameTransport) (bytes other : Bytes) (first : Bool)
    (attempts : List Attempt) : .write other ∈ (t.sendAttempts bytes first attempts).2.1 ↔
      other = bytes ∧ ∃ attempt ∈ attempts, attempt.written = true := by
  -- The attempts are made one after another, as long as the last one asks for the next.
  induction attempts generalizing t first with
  | nil => simp [sendAttempts]
  | cons attempt attempts ih =>
    rw [sendAttempts]
    dsimp only
    generalize (if first = true then t else t.resetParser) = t
    cases hwritten : attempt.written with
    -- An attempt that fails writes nothing.
    | false =>
      rw [if_neg (by simp)]
      have hrest := ih t false
      simp only [List.mem_cons, reduceCtorEq, false_or, exists_eq_or_imp, hwritten,
        Bool.false_eq_true]
      exact hrest
    | true =>
      have hreads := write_notMem_awaitReads t attempt.reads other
      rw [if_pos rfl]
      -- This attempt writes, and whatever follows writes the same.
      have hhere : other = bytes ∧ (∃ attempt' ∈ attempt :: attempts, attempt'.written = true) ↔
          other = bytes := and_iff_left ⟨attempt, List.mem_cons_self, hwritten⟩
      rw [hhere]
      generalize t.awaitReads attempt.reads = result at hreads ⊢
      obtain ⟨t', effects, wait⟩ := result
      have hmore : .write other ∈ Effect.write bytes :: effects ++
          .retry :: (t'.sendAttempts bytes false attempts).2.1 ↔ other = bytes := by
        have hrest := ih t' false
        simp only [List.cons_append, List.mem_cons, List.mem_append, hreads, Effect.write.injEq,
          reduceCtorEq, false_or, hrest]
        exact or_iff_left_of_imp And.left
      -- The ACK ends the sending.
      cases wait with
      | acked tail =>
        simp only [List.mem_cons, hreads, Effect.write.injEq, or_false]
      | refused => exact hmore
      | more => exact hmore

/-- A send whose writes all fail reports failure. -/
theorem sendAttempts_of_unwritten (t : FrameTransport) (bytes : Bytes) (first : Bool)
    {attempts : List Attempt} (h : ∀ attempt ∈ attempts, attempt.written = false) :
    (t.sendAttempts bytes first attempts).2.2 = false := by
  induction attempts generalizing t first with
  | nil => rfl
  | cons attempt attempts ih =>
    rw [sendAttempts]
    dsimp only
    rw [h attempt List.mem_cons_self]
    exact ih _ false fun other hother => h other (List.mem_cons_of_mem _ hother)

end FrameTransport

end Zwaved.Serial
