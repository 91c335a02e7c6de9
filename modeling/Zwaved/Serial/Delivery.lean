import Zwaved.Reactive.Run
import Zwaved.Serial.FrameTransport

/-!
# Frames around a send

The daemon calls `pumpOnce` and `sendRequest` in turn. Whatever the calls and however the reads cut
the stream, the frames that the incoming handler gets should be those that the stream contains,
which are the frames that `feed` finds in it byte by byte.

`sendRequest` stops feeding at the ACK and never looks at the rest of the chunk, so a frame that
starts there is lost, and what comes of it in the next chunk is read as something else. `delivers`
says that this is all: where no start byte stands behind an ACK in its chunk, and no attempt to send
is given up, the handler gets exactly the frames of the stream.
-/

namespace Zwaved.Serial

open Reactive

namespace FrameTransport

/-! ## The frames of a stream -/

/-- The frames among what bytes bring in. -/
def framesOf : List Received → List ZwaveDataFrame
  | [] => []
  | .frame frame :: rest => frame :: framesOf rest
  | _ :: rest => framesOf rest

/-- The frames that the incoming handler gets. -/
def handled : List Effect → List ZwaveDataFrame
  | [] => []
  | .handle frame :: rest => frame :: handled rest
  | _ :: rest => handled rest

/-- The bytes that were read. -/
def stream : List Effect → Bytes
  | [] => []
  | .read chunk :: rest => chunk ++ stream rest
  | _ :: rest => stream rest

/-- The frames of two lists of received items come in their order. -/
theorem framesOf_append (xs ys : List Received) :
    framesOf (xs ++ ys) = framesOf xs ++ framesOf ys := by
  induction xs with
  | nil => rfl
  | cons x xs ih => cases x <;> simp [framesOf, ih]

/-- The frames that are handled come in the order of the effects. -/
theorem handled_append (xs ys : List Effect) : handled (xs ++ ys) = handled xs ++ handled ys := by
  induction xs with
  | nil => rfl
  | cons x xs ih => cases x <;> simp [handled, ih]

/-- The bytes that are read come in the order of the effects. -/
theorem stream_append (xs ys : List Effect) : stream (xs ++ ys) = stream xs ++ stream ys := by
  induction xs with
  | nil => rfl
  | cons x xs ih => cases x <;> simp [stream, ih]

/-! ## Two parsers at the same point -/

/-- The two parsers are at the same point of a stream: they differ in the last frame at most. -/
structure Same (t u : FrameTransport) : Prop where
  /-- The state. -/
  parseState : t.parseState = u.parseState
  /-- The length of the frame. -/
  expectedLength : t.expectedLength = u.expectedLength
  /-- The bytes of it. -/
  frameBytes : t.frameBytes = u.frameBytes

/-- A parser is at the same point as itself. -/
theorem Same.refl (t : FrameTransport) : Same t t := ⟨rfl, rfl, rfl⟩

/-- Two parsers that start anew are at the same point. -/
theorem same_resetParser (t u : FrameTransport) : Same t.resetParser u.resetParser :=
  ⟨rfl, rfl, rfl⟩

/-- The same byte moves two parsers at the same point to the same point, with the same event and the
same frame. -/
theorem Same.feed {t u : FrameTransport} (h : Same t u) (byte : UInt8) :
    ∃ t' u' event, t.feed byte = (t', event) ∧ u.feed byte = (u', event) ∧ Same t' u' ∧
      (event = .dataFrame → t'.lastParsedFrame = u'.lastParsedFrame ∧ t'.lastParsedValid = true) := by
  obtain ⟨hstate, hlength, hbytes⟩ := h
  unfold FrameTransport.feed
  -- The two are in the same place of a frame and so take the same branch.
  rw [← hstate, ← hbytes, ← hlength]
  cases ht : t.parseState with
  | waitFrameStart =>
    dsimp only
    have hsame : Same t u := ⟨hstate, hlength, hbytes⟩
    split_ifs
    -- The three answers of the stick leave the parser as it is.
    · exact ⟨t, u, .ack, rfl, rfl, hsame, nofun⟩
    · exact ⟨t, u, .nak, rfl, rfl, hsame, nofun⟩
    · exact ⟨t, u, .can, rfl, rfl, hsame, nofun⟩
    · exact ⟨_, _, .none, rfl, rfl, ⟨rfl, rfl, rfl⟩, nofun⟩
    · exact ⟨t, u, .none, rfl, rfl, hsame, nofun⟩
  | waitLength =>
    dsimp only
    split_ifs
    · exact ⟨_, _, .none, rfl, rfl, same_resetParser _ _, nofun⟩
    · exact ⟨_, _, .none, rfl, rfl, ⟨rfl, rfl, rfl⟩, nofun⟩
  -- The last byte completes the frame, which both have parsed.
  | waitPayload =>
    dsimp only
    split_ifs
    · exact ⟨_, _, .none, rfl, rfl, ⟨rfl, rfl, rfl⟩, nofun⟩
    · exact ⟨_, _, .dataFrame, rfl, rfl, ⟨rfl, rfl, rfl⟩, fun _ => ⟨rfl, rfl⟩⟩
    · exact ⟨_, _, .none, rfl, rfl, same_resetParser _ _, nofun⟩

/-- The handler's effects and the parser after them are those of feeding `bytes` to a parser at the
point of `u`. -/
structure Follows (u : FrameTransport) (bytes : Bytes) (t' : FrameTransport)
    (effects : List Effect) : Prop where
  /-- The handler gets the frames. -/
  frames : handled effects = framesOf (u.feedAll bytes).2
  /-- The parser is at the same point. -/
  same : Same t' (u.feedAll bytes).1

/-- Handling two stretches of bytes one after the other follows the parser over both. -/
theorem Follows.append {u t' t'' : FrameTransport} {xs ys : Bytes} {effects effects' : List Effect}
    (h : Follows u xs t' effects) (h' : Follows (u.feedAll xs).1 ys t'' effects') :
    Follows u (xs ++ ys) t'' (effects ++ effects') := by
  constructor
  · rw [feedAll_append, handled_append, framesOf_append, h.frames, h'.frames]
  · rw [feedAll_append]
    exact h'.same

/-- Doing nothing follows a parser that is fed nothing. -/
theorem Follows.nil {t u : FrameTransport} (h : Same t u) : Follows u [] t [] := ⟨rfl, h⟩

/-- Feeding one byte, and handling the frame if it completes one, follows the parser over that
byte. -/
theorem Same.follows {t u : FrameTransport} (h : Same t u) (byte : UInt8) :
    Follows u [byte]
      (if (t.feed byte).2 = .dataFrame then (t.feed byte).1.handleParsedDataFrame
        else ((t.feed byte).1, [])).1
      (if (t.feed byte).2 = .dataFrame then (t.feed byte).1.handleParsedDataFrame
        else ((t.feed byte).1, [])).2 := by
  obtain ⟨t', u', event, ht, hu, hsame, hframe⟩ := h.feed byte
  rw [ht]
  dsimp only
  -- A complete frame is acknowledged and handled, and the parser of the stream has returned it too.
  by_cases hevent : event = .dataFrame
  · subst hevent
    obtain ⟨hlast, hvalid⟩ := hframe rfl
    rw [if_pos rfl, handleParsedDataFrame, if_pos hvalid]
    refine ⟨?_, ?_⟩
    · rw [feedAll_cons hu, hlast]
      rfl
    · rw [feedAll_cons hu]
      exact ⟨hsame.parseState, hsame.expectedLength, hsame.frameBytes⟩
  · rw [if_neg hevent]
    -- Without a frame there is nothing to acknowledge.
    refine ⟨?_, ?_⟩
    · rw [feedAll_cons hu]
      cases event with
      | dataFrame => exact absurd rfl hevent
      | none | ack | nak | can => rfl
    · rw [feedAll_cons hu]
      exact hsame

/-! ## Pumping -/

/-- A pump from the same point follows the parser over its bytes: the handler gets the frames of the
stream. -/
theorem Same.pumpBytes {t u : FrameTransport} (h : Same t u) (bytes : Bytes) :
    Follows u bytes (t.pumpBytes bytes).1 (t.pumpBytes bytes).2 := by
  induction bytes generalizing t u with
  | nil => exact Follows.nil h
  | cons byte bytes ih =>
    have hbyte := h.follows byte
    exact hbyte.append (ih hbyte.same)

/-! ## Sending -/

/-- Only between frames is a byte an ACK. -/
theorem eq_of_feed_ack {t t' : FrameTransport} {byte : UInt8} (h : t.feed byte = (t', .ack)) :
    t' = t ∧ t.parseState = .waitFrameStart := by
  unfold FrameTransport.feed at h
  cases ht : t.parseState with
  | waitFrameStart =>
    rw [ht] at h
    dsimp only at h
    split_ifs at h <;> cases h
    exact ⟨rfl, rfl⟩
  | waitLength =>
    rw [ht] at h
    dsimp only at h
    split_ifs at h <;> cases h
  | waitPayload =>
    rw [ht] at h
    dsimp only at h
    split_ifs at h <;> cases h

/-- Between frames, bytes without a start byte among them change nothing. -/
theorem feed_noStart {t : FrameTransport} (h : t.parseState = .waitFrameStart) {byte : UInt8}
    (hsof : byte ≠ ZwaveDataFrame.sof) :
    (t.feed byte).1 = t ∧ (t.feed byte).2 ≠ .dataFrame := by
  unfold FrameTransport.feed
  rw [h]
  dsimp only
  rw [if_neg hsof]
  split_ifs <;> exact ⟨rfl, nofun⟩

/-- What is not looked at makes no difference, if no frame starts in it. -/
theorem Same.skip {t u : FrameTransport} (h : Same t u) (hstart : t.parseState = .waitFrameStart)
    {tail : Bytes} (htail : ZwaveDataFrame.sof ∉ tail) : Follows u tail t [] := by
  induction tail generalizing u with
  | nil => exact Follows.nil h
  | cons byte tail ih =>
    have hsof : byte ≠ ZwaveDataFrame.sof := fun h => htail (h ▸ List.mem_cons_self)
    obtain ⟨hstate, hevent⟩ := feed_noStart hstart hsof
    have hbyte := h.follows byte
    rw [if_neg hevent, hstate] at hbyte
    exact hbyte.append (ih hbyte.same fun h => htail (List.mem_cons_of_mem _ h))

/-- The bytes of a chunk, up to the ACK if it comes: as if the whole chunk had been fed, unless a
frame starts behind the ACK. -/
theorem Same.awaitBytes {t u t' : FrameTransport} (h : Same t u) {bytes : Bytes}
    {effects : List Effect} {wait : Wait} (heq : t.awaitBytes bytes = (t', effects, wait))
    (hwait : wait ≠ .refused) (htail : ∀ tail, wait = .acked tail → ZwaveDataFrame.sof ∉ tail) :
    Follows u bytes t' effects := by
  -- The bytes are fed until one of them ends the wait.
  induction bytes generalizing t u effects with
  | nil =>
    obtain ⟨rfl, rfl, rfl⟩ := heq
    exact Follows.nil h
  | cons byte bytes ih =>
    have hbyte := h.follows byte
    unfold FrameTransport.awaitBytes at heq
    obtain ⟨t₁, event, hfeed⟩ : ∃ t₁ event, t.feed byte = (t₁, event) := ⟨_, _, rfl⟩
    rw [hfeed] at heq hbyte
    cases event with
    -- The bytes behind the ACK are dropped. Without the start of a frame among them they mean
    -- nothing to the stream.
    | ack =>
      obtain ⟨rfl, rfl, rfl⟩ := heq
      obtain ⟨rfl, hstart⟩ := eq_of_feed_ack hfeed
      exact hbyte.append (hbyte.same.skip hstart (htail bytes rfl))
    | nak | can =>
      obtain ⟨-, -, rfl⟩ := heq
      exact absurd rfl hwait
    -- The wait goes on with the next byte, also after a frame that came in between.
    | none => exact hbyte.append (ih hbyte.same heq)
    | dataFrame =>
      dsimp only at heq
      obtain ⟨rfl, rfl, rfl⟩ := heq
      exact hbyte.append (ih hbyte.same rfl)

/-- Handling a parsed frame reads nothing. -/
theorem stream_handleParsedDataFrame (t : FrameTransport) :
    stream t.handleParsedDataFrame.2 = [] := by
  unfold handleParsedDataFrame
  split_ifs <;> rfl

/-- Working through a chunk that has been read reads no more. -/
theorem stream_pumpBytes (t : FrameTransport) (bytes : Bytes) :
    stream (t.pumpBytes bytes).2 = [] := by
  induction bytes generalizing t with
  | nil => rfl
  | cons byte bytes ih =>
    unfold FrameTransport.pumpBytes
    dsimp only
    rw [stream_append, ih, List.append_nil]
    split_ifs
    · exact stream_handleParsedDataFrame _
    · rfl

/-- Working through bytes that have been read reads no more. -/
theorem stream_awaitBytes (t : FrameTransport) (bytes : Bytes) :
    stream (t.awaitBytes bytes).2.1 = [] := by
  induction bytes generalizing t with
  | nil => rfl
  | cons byte bytes ih =>
    unfold FrameTransport.awaitBytes
    dsimp only
    split
    · rfl
    · rfl
    · rfl
    · rw [stream_append, ih, stream_handleParsedDataFrame, List.append_nil]
    · exact ih _

/-- What follows the bytes of a chunk still does with the read of the chunk in front of it. -/
theorem Follows.read {u t' : FrameTransport} {chunk : Bytes} {effects : List Effect}
    (h : Follows u chunk t' effects) (hstream : stream effects = []) :
    Follows u (stream (.read chunk :: effects)) t' (.read chunk :: effects) := by
  rw [stream, hstream, List.append_nil]
  exact ⟨h.frames, h.same⟩

/-- The reads of an attempt up to its ACK follow the parser over all that was read, if no frame
starts behind the ACK in its chunk: those bytes are not looked at. -/
theorem Same.awaitReads {t u t' : FrameTransport} (h : Same t u) {reads : List Bytes}
    {effects : List Effect} {tail : Bytes}
    (heq : t.awaitReads reads = (t', effects, .acked tail)) (htail : ZwaveDataFrame.sof ∉ tail) :
    Follows u (stream effects) t' effects := by
  -- Each read is waited on in turn, until one brings the ACK.
  induction reads generalizing t u effects with
  | nil => cases heq
  | cons chunk reads ih =>
    unfold FrameTransport.awaitReads at heq
    have hstream := stream_awaitBytes t chunk
    obtain ⟨t₁, effects₁, wait, hchunk⟩ :
        ∃ t₁ effects₁ wait, t.awaitBytes chunk = (t₁, effects₁, wait) := ⟨_, _, _, rfl⟩
    rw [hchunk] at heq hstream
    cases wait with
    | refused => cases heq
    -- The ACK came in this read, and what is left of it is the tail.
    | acked tail' =>
      obtain ⟨rfl, rfl, rfl⟩ := heq
      refine (h.awaitBytes hchunk (by simp) fun tail'' hacked => ?_).read hstream
      rwa [← Wait.acked.inj hacked]
    -- The read brought no answer, and the next one goes on from there.
    | more =>
      obtain ⟨t₂, effects₂, wait₂, hrest⟩ :
          ∃ t₂ effects₂ wait₂, t₁.awaitReads reads = (t₂, effects₂, wait₂) := ⟨_, _, _, rfl⟩
      dsimp only at heq
      rw [hrest] at heq
      obtain ⟨rfl, rfl, rfl⟩ := heq
      have hfirst := (h.awaitBytes hchunk (by simp) fun tail hacked => by cases hacked).read
        hstream
      rw [stream_append]
      exact hfirst.append (ih hfirst.same hrest)

/-- A send that needs no second attempt follows the parser over all that it reads, if no frame
starts behind the ACK in its chunk. -/
theorem Same.sendAttempts {t u : FrameTransport} (h : Same t u) {bytes : Bytes} {attempt : Attempt}
    {attempts : List Attempt}
    (hretry : Effect.retry ∉ (t.sendAttempts bytes true (attempt :: attempts)).2.1)
    (htail : ∀ tail, (t.awaitReads attempt.reads).2.2 = .acked tail →
      ZwaveDataFrame.sof ∉ tail) :
    Follows u (stream (t.sendAttempts bytes true (attempt :: attempts)).2.1)
      (t.sendAttempts bytes true (attempt :: attempts)).1
      (t.sendAttempts bytes true (attempt :: attempts)).2.1 := by
  unfold FrameTransport.sendAttempts at hretry ⊢
  rw [if_pos rfl] at hretry ⊢
  by_cases hwritten : attempt.written = true
  swap
  -- A write that fails is tried again, which is ruled out.
  · rw [if_neg hwritten] at hretry
    exact absurd List.mem_cons_self hretry
  rw [if_pos hwritten] at hretry ⊢
  obtain ⟨t₁, effects, wait, hreads⟩ :
      ∃ t₁ effects wait, t.awaitReads attempt.reads = (t₁, effects, wait) := ⟨_, _, _, rfl⟩
  rw [hreads] at hretry htail ⊢
  cases wait with
  -- An answer that is not the ACK is tried again as well.
  | refused | more => exact absurd (by simp) hretry
  | acked tail =>
    have hfollows := h.awaitReads hreads (htail tail rfl)
    exact ⟨hfollows.frames, hfollows.same⟩

/-! ## Calls -/

/-- A call on the transport, with what the port does during it. -/
inductive Call
  /-- `pumpOnce`, where the read returns `chunk`. -/
  | pump (chunk : Bytes)
  /-- `sendRequest`. -/
  | send (frame : ZwaveDataFrame) (attempts : Vector Attempt maxSendRetries)

/-- One call. -/
def step (t : FrameTransport) : Call → FrameTransport × List Effect
  | .pump chunk => t.pumpOnce chunk
  | .send frame attempts =>
    ((t.sendRequest frame attempts).1, (t.sendRequest frame attempts).2.1)

/-- No frame starts behind the ACK of the call in the chunk that the ACK is read in. -/
def NoStartBehindAck (t : FrameTransport) : Call → Prop
  | .pump _ => True
  | .send _ attempts => ∀ tail, (t.awaitReads (attempts.get ⟨0, by decide⟩).reads).2.2 = .acked tail →
      ZwaveDataFrame.sof ∉ tail

/-- The handler got the frames of the bytes that were read. -/
def Delivers (t : FrameTransport) (calls : List Call) : Prop :=
  handled (emitted step t calls) = framesOf (t.feedAll (stream (emitted step t calls))).2

instance (t : FrameTransport) (calls : List Call) : Decidable (Delivers t calls) :=
  inferInstanceAs (Decidable (_ = _))

/-- One call that gives up no attempt and has no frame behind its ACK. -/
theorem Same.step {t u : FrameTransport} (h : Same t u) {call : Call}
    (hretry : Effect.retry ∉ (step t call).2) (hack : NoStartBehindAck t call) :
    Follows u (stream (step t call).2) (step t call).1 (step t call).2 := by
  cases call with
  | pump chunk => exact (h.pumpBytes chunk).read (stream_pumpBytes t chunk)
  | send frame attempts =>
    obtain ⟨⟨attempts⟩, hsize⟩ := attempts
    match attempts, hsize with
    | attempt :: rest, hsize => exact h.sendAttempts hretry hack

/-- In every run of calls that give up no attempt to send, where no frame starts behind an ACK in
the chunk that the ACK is read in, the handler gets exactly the frames of the stream. -/
theorem delivers (t : FrameTransport) (calls : List Call)
    (hretry : Effect.retry ∉ emitted step t calls)
    (hack : ∀ pre call post, calls = pre ++ call :: post →
      NoStartBehindAck (exec step t pre) call) :
    Delivers t calls := by
  have hfollows : Follows t (stream (emitted step t calls)) (exec step t calls)
      (emitted step t calls) := by
    induction calls using List.reverseRecOn with
    | nil => exact Follows.nil (Same.refl t)
    | append_singleton calls call ih =>
      rw [emitted_concat] at hretry
      have hcalls := ih (fun h => hretry (List.mem_append_left _ h)) fun pre call' post h =>
        hack pre call' (post ++ [call]) (by rw [h]; simp)
      rw [emitted_concat, exec_concat, stream_append]
      exact hcalls.append (hcalls.same.step (fun h => hretry (List.mem_append_right _ h))
        (hack calls call [] rfl))
  exact hfollows.frames

/-- An attempt in which nothing is written. -/
def Attempt.unwritten : Attempt := ⟨false, []⟩

/-- GET_VERSION is sent, and the send reads `chunk`; the pump reads `rest`. -/
def sendThenPump (chunk rest : Bytes) : List Call :=
  [.send { commandId := 0x15 } #v[⟨true, [chunk]⟩, Attempt.unwritten, Attempt.unwritten],
    .pump rest]

/-- The answer to it. -/
def versionAnswer : ZwaveDataFrame := { frameType := .response, commandId := 0x15, payload := [0x07] }

/-- A send whose answer comes in the chunk after the ACK's: the answer is handled. -/
theorem delivers_sendThenPump :
    Delivers {} (sendThenPump [ack] versionAnswer.toBuffer) ∧
      handled (emitted step {} (sendThenPump [ack] versionAnswer.toBuffer)) =
        [{ versionAnswer with valid := true }] := by
  refine ⟨delivers {} _ (by decide) fun pre call post h => ?_, by decide⟩
  rcases pre with _ | ⟨first, _ | ⟨second, pre⟩⟩
  · obtain ⟨rfl, -⟩ := List.cons.inj h
    intro tail htail
    obtain rfl : ([] : Bytes) = tail := Wait.acked.inj htail
    exact List.not_mem_nil
  · obtain ⟨-, h⟩ := List.cons.inj h
    obtain ⟨rfl, -⟩ := List.cons.inj h
    trivial
  · obtain ⟨-, h⟩ := List.cons.inj h
    obtain ⟨-, h⟩ := List.cons.inj h
    simp at h

/-- The answer comes behind the ACK in its chunk, and the handler never gets it. -/
theorem not_delivers_sendThenPump :
    ¬ ∀ calls : List Call,
      (∀ chunk, Effect.read chunk ∈ emitted step {} calls →
        1 ≤ chunk.length ∧ chunk.length ≤ readChunkSize) →
      Effect.retry ∉ emitted step {} calls → Delivers {} calls := by
  intro h
  have hcalls := h (sendThenPump (ack :: versionAnswer.toBuffer) [ack]) ?_ (by decide)
  · exact absurd hcalls (by decide)
  · intro chunk hchunk
    have heffects : emitted step {} (sendThenPump (ack :: versionAnswer.toBuffer) [ack]) =
        [.write [0x01, 0x03, 0x00, 0x15, 0xE9], .read (ack :: versionAnswer.toBuffer),
          .read [ack]] := by decide
    rw [heffects] at hchunk
    simp only [List.mem_cons, reduceCtorEq, Effect.read.injEq, List.not_mem_nil, or_false,
      false_or] at hchunk
    rcases hchunk with rfl | rfl <;> decide

end FrameTransport

end Zwaved.Serial
