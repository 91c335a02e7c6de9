import Zwaved.Reactive.Run
import Zwaved.TransportService.Assembler

/-!
# The reassembler's representation invariant

While a datagram is in flight, the buffer and the table of received positions should have the
declared size, the count should be the number of positions received, and the datagram should not be
whole yet (`Assembler.Inv`). Under it `place` never leaves its vectors, and a datagram that comes
out was received at every position.

Every segment keeps the invariant but one kind. `handleFirst` assigns the declared size before it
refuses a FIRST_SEGMENT, so a refused one that declares another size than the datagram in flight
leaves the vectors of the old size behind the new one. `sound_iff` says that this is the only way
out: a run is sound exactly when no refused FIRST_SEGMENT changes the size of a datagram in flight.
-/

namespace Zwaved.TransportService

open Reactive

namespace Assembler

/-- The vectors have the declared size, and the count is right. -/
structure Shaped (a : Assembler) : Prop where
  /-- `buffer_.size() = datagramSize_`. -/
  buffer : a.buffer.length = a.datagramSize
  /-- `received_.size() = datagramSize_`. -/
  received : a.received.length = a.datagramSize
  /-- `receivedCount_` counts the positions received. -/
  count : a.receivedCount = a.received.count true

/-- The representation invariant: a datagram in flight is well shaped and not whole yet. -/
def Inv (a : Assembler) : Prop :=
  a.active = true → a.Shaped ∧ a.receivedCount < a.datagramSize

/-- What placing `payload` at `offset` makes of `a`: the shape stays, and a position that is
filled afterwards was filled before, with the same byte, or is filled from the payload. -/
structure Placed (a a' : Assembler) (offset : ℕ) (payload : Bytes) : Prop where
  /-- The shape stays. -/
  shaped : a'.Shaped
  /-- The size stays. -/
  size : a'.datagramSize = a.datagramSize
  /-- A filled position kept its byte or got the payload's. -/
  filled : ∀ pos b, a'.received[pos]? = some true → a'.buffer[pos]? = some b →
    (a.received[pos]? = some true ∧ a.buffer[pos]? = some b) ∨
      (offset ≤ pos ∧ payload[pos - offset]? = some b)

/-- Placing no byte places what there is of none. -/
theorem Placed.refl {a : Assembler} (h : a.Shaped) (offset : ℕ) (payload : Bytes) :
    Placed a a offset payload :=
  ⟨h, rfl, fun _ _ hr hb => Or.inl ⟨hr, hb⟩⟩

/-- The first byte of a payload in front of what the rest of it does. -/
theorem Placed.cons {a a' b : Assembler} {pos : ℕ} {byte : UInt8} {payload : Bytes}
    (h : Placed b a' (pos + 1) payload) (hsize : b.datagramSize = a.datagramSize)
    (hb : ∀ q x, b.received[q]? = some true → b.buffer[q]? = some x →
      (a.received[q]? = some true ∧ a.buffer[q]? = some x) ∨ (q = pos ∧ x = byte)) :
    Placed a a' pos (byte :: payload) := by
  refine ⟨h.shaped, h.size.trans hsize, fun q x hr hx => ?_⟩
  rcases h.filled q x hr hx with ⟨hr', hx'⟩ | ⟨hle, hx'⟩
  · rcases hb q x hr' hx' with hold | ⟨rfl, rfl⟩
    · exact Or.inl hold
    · exact Or.inr ⟨Nat.le_refl _, by simp⟩
  · refine Or.inr ⟨by omega, ?_⟩
    rw [show q - pos = (q - (pos + 1)) + 1 by omega, List.getElem?_cons_succ]
    exact hx'

/-- Filling a position that is free keeps the assembler well shaped: the count goes up by one. -/
theorem Shaped.fill {a : Assembler} (h : a.Shaped) {pos : ℕ} (byte : UInt8)
    (hfree : a.received[pos]? = some false) :
    ({ a with
      buffer := a.buffer.set pos byte
      received := a.received.set pos true
      receivedCount := a.receivedCount + 1 } : Assembler).Shaped := by
  obtain ⟨hlt, hval⟩ := List.getElem?_eq_some_iff.mp hfree
  refine ⟨by simpa using h.buffer, by simpa using h.received, ?_⟩
  show a.receivedCount + 1 = (a.received.set pos true).count true
  rw [List.count_set hlt, hval, h.count]
  simp

/-- On a well shaped assembler the loop of `place` stays inside its vectors. -/
theorem placeFrom_spec (payload : Bytes) (a : Assembler) (h : a.Shaped) (pos : ℕ) :
    ∃ a', placeFrom a pos payload = .ok a' ∧ a'.active = a.active ∧ Placed a a' pos payload := by
  -- The bytes are placed from the front. Each is stored unless its place is filled or behind the
  -- end.
  induction payload generalizing a pos with
  | nil => exact ⟨a, rfl, rfl, Placed.refl h pos []⟩
  | cons byte payload ih =>
    unfold placeFrom
    by_cases hpos : pos ≥ a.datagramSize
    · exact ⟨a, if_pos hpos, rfl, Placed.refl h pos _⟩
    rw [if_neg hpos]
    -- The place has its mark, as the marks are as many as the datagram is long.
    have hlt : pos < a.received.length := by rw [h.received]; omega
    cases hr : a.received[pos]? with
    | none => rw [List.getElem?_eq_none_iff] at hr; omega
    | some v =>
      cases v with
      -- The place is filled, and what is there stays.
      | true =>
        obtain ⟨a', heq, hact, hplaced⟩ := ih a h (pos + 1)
        exact ⟨a', heq, hact, hplaced.cons rfl fun q x hr hx => Or.inl ⟨hr, hx⟩⟩
      | false =>
        have hbuf : pos < a.buffer.length := by rw [h.buffer, ← h.received]; exact hlt
        obtain ⟨a', heq, hact, hplaced⟩ := ih _ (h.fill byte hr) (pos + 1)
        refine ⟨a', by simpa [hbuf] using heq, hact, hplaced.cons rfl fun q x hr' hx => ?_⟩
        -- The place has this byte now, and the other places have what they had.
        by_cases hq : pos = q
        · subst hq
          exact Or.inr ⟨rfl, by simpa [hbuf] using hx.symm⟩
        · rw [List.getElem?_set_ne hq] at hr' hx
          exact Or.inl ⟨hr', hx⟩

/-- Placing a payload leaves the session id. -/
theorem sessionId_placeFrom (payload : Bytes) {a p : Assembler} {pos : ℕ}
    (h : placeFrom a pos payload = .ok p) : p.sessionId = a.sessionId := by
  induction payload generalizing a pos with
  | nil => rw [Except.ok.inj h]
  | cons byte payload ih =>
    unfold placeFrom at h
    by_cases hpos : pos ≥ a.datagramSize
    · rw [if_pos hpos] at h
      rw [Except.ok.inj h]
    rw [if_neg hpos] at h
    match hr : a.received[pos]?, h with
    | some true, h => exact ih h
    | some false, h =>
      dsimp only at h
      split at h
      · have hsession := ih h
        exact hsession
      · cases h

/-- Whatever state the loop of `place` starts in, it leaves the flag, the size and the length of the
buffer alone and counts at most the bytes of the payload. -/
theorem placeFrom_bounds (payload : Bytes) {a p : Assembler} {pos : ℕ}
    (h : placeFrom a pos payload = .ok p) :
    p.active = a.active ∧ p.datagramSize = a.datagramSize ∧ p.buffer.length = a.buffer.length ∧
      p.receivedCount ≤ a.receivedCount + payload.length := by
  -- One more byte adds one at most to the count, and changes none of the sizes.
  induction payload generalizing a pos with
  | nil =>
    rw [← Except.ok.inj h]
    exact ⟨rfl, rfl, rfl, Nat.le_refl _⟩
  | cons byte payload ih =>
    unfold placeFrom at h
    by_cases hpos : pos ≥ a.datagramSize
    · rw [if_pos hpos] at h
      rw [← Except.ok.inj h]
      exact ⟨rfl, rfl, rfl, Nat.le_add_right _ _⟩
    rw [if_neg hpos] at h
    match hr : a.received[pos]?, h with
    | some true, h =>
      obtain ⟨hactive, hsize, hbuffer, hcount⟩ := ih h
      refine ⟨hactive, hsize, hbuffer, ?_⟩
      rw [List.length_cons]
      omega
    | some false, h =>
      dsimp only at h
      split at h
      · obtain ⟨hactive, hsize, hbuffer, hcount⟩ := ih h
        refine ⟨hactive, hsize, ?_, ?_⟩
        · rw [hbuffer, List.length_set]
        · rw [List.length_cons]
          dsimp only at hcount
          omega
      · cases h

/-- What `place` hands out ends the datagram, and is as long as the buffer. -/
theorem place_eq_some {a a' : Assembler} {offset : ℕ} {payload inner : Bytes}
    (h : place a offset payload = .ok (a', some inner)) :
    a'.active = false ∧ inner.length = a.buffer.length ∧
      a.datagramSize ≤ a.receivedCount + payload.length := by
  unfold place at h
  rcases hloop : placeFrom a offset payload with fault | p
  · rw [hloop] at h
    cases h
  · obtain ⟨-, hsize, hbuffer, hcount⟩ := placeFrom_bounds payload hloop
    rw [hloop] at h
    simp only [bind, Except.bind] at h
    split at h
    next hwhole =>
      obtain ⟨rfl, hinner⟩ := Prod.mk.inj (Except.ok.inj h)
      obtain rfl := Option.some.inj hinner
      exact ⟨rfl, hbuffer, by omega⟩
    · cases h

/-- A datagram that comes out leaves none in flight; it is shorter than the segment that completed
it, unless it was in flight before, and then it is as long as the buffer was. -/
theorem feedSegment_eq_some {a a' : Assembler} {segment inner : Bytes}
    (h : a.feedSegment segment = .ok (a', some inner)) :
    a'.active = false ∧ (inner.length < segment.length ∨
      (a.active = true ∧ inner.length = a.buffer.length)) := by
  unfold feedSegment at h
  -- A segment that is cut short or whose FCS does not match returns nothing.
  split at h
  · cases h
  next hvalid =>
  obtain ⟨hfit, -⟩ := not_not.mp hvalid
  have hlong : fcsLen + 1 ≤ segment.length := by omega
  dsimp only at h
  split at h
  · -- A FIRST_SEGMENT that is all there is of its datagram.
    unfold handleFirst at h
    split at h
    · cases h
    dsimp only at h
    split at h
    · cases h
    next start _ =>
    split at h
    · cases h
    · obtain ⟨hinactive, hlen, hcount⟩ := place_eq_some h
      -- The payload is a part of the segment, and the datagram is no longer than that.
      have hpayload := Bytes.length_subspan_le segment start (segment.length - fcsLen - start)
      rw [List.length_replicate] at hlen
      dsimp only at hcount
      have hfcs : fcsLen = 2 := rfl
      exact ⟨hinactive, Or.inl (by omega)⟩
  split at h
  · -- The last missing segment of the datagram in flight.
    unfold handleSubsequent at h
    split at h
    · cases h
    next hopen =>
    split at h
    · cases h
    split at h
    · cases h
    · obtain ⟨hinactive, hlen, -⟩ := place_eq_some h
      -- The segment was for a datagram in flight, so the assembler was active.
      have hactive : a.active = true := by
        cases hactive : a.active with
        | true => rfl
        | false => exact absurd (Or.inl hactive) hopen
      exact ⟨hinactive, Or.inr ⟨hactive, hlen⟩⟩
  · cases h

/-- Once the loop is through, `place` either hands out the whole datagram or waits for more. -/
theorem place_of_placeFrom {a p : Assembler} {offset : ℕ} {payload : Bytes}
    (heq : placeFrom a offset payload = .ok p) (hshaped : p.Shaped) :
    (p.receivedCount = p.datagramSize ∧ place a offset payload = .ok (p.reset, some p.buffer)) ∨
      (p.receivedCount < p.datagramSize ∧ place a offset payload = .ok (p, none)) := by
  have hle : p.receivedCount ≤ p.datagramSize := by
    rw [hshaped.count, ← hshaped.received]
    exact List.count_le_length
  simp only [place, heq, bind, Except.bind]
  rcases Nat.eq_or_lt_of_le hle with hwhole | hlt
  · exact Or.inl ⟨hwhole, by rw [if_pos hwhole]; rfl⟩
  · exact Or.inr ⟨hlt, by rw [if_neg (Nat.ne_of_lt hlt)]; rfl⟩

/-- Every position of a well shaped whole datagram was received. -/
theorem Shaped.received_of_whole {a : Assembler} (h : a.Shaped)
    (hwhole : a.receivedCount = a.datagramSize) {pos : ℕ} {b : UInt8}
    (hb : a.buffer[pos]? = some b) : a.received[pos]? = some true := by
  obtain ⟨hlt, -⟩ := List.getElem?_eq_some_iff.mp hb
  have hlt' : pos < a.received.length := by rw [h.received, ← h.buffer]; exact hlt
  have hall := List.count_eq_length.mp (h.count.symm.trans (hwhole.trans h.received.symm))
  rw [List.getElem?_eq_getElem hlt', hall _ (List.getElem_mem hlt')]

/-- `place` on a well shaped assembler does not fault, and it leaves the invariant. What holds of
every state that the loop can leave behind, holds of the state after it; a datagram comes out of
such a state, with every position received. -/
theorem place_keeps {T : Assembler → Prop} {D : Bytes → Prop} {a : Assembler} (hshaped : a.Shaped)
    (offset : ℕ) (payload : Bytes)
    (hplaced : ∀ p, placeFrom a offset payload = .ok p → p.active = a.active →
      Placed a p offset payload → T p)
    (hreset : ∀ p, T p → T p.reset)
    (hwhole : ∀ p, p.active = a.active → T p →
      (∀ (pos : ℕ) (b : UInt8), p.buffer[pos]? = some b → p.received[pos]? = some true) →
      D p.buffer) :
    ∃ a' datagram, a.place offset payload = .ok (a', datagram) ∧ a'.Inv ∧ T a' ∧
      ∀ d ∈ datagram.toList, D d := by
  obtain ⟨p, heq, hact, hp⟩ := placeFrom_spec payload a hshaped offset
  have hT : T p := hplaced p heq hact hp
  rcases place_of_placeFrom heq hp.shaped with ⟨hcount, hplace⟩ | ⟨hlt, hplace⟩
  · refine ⟨p.reset, some p.buffer, hplace, fun h => absurd h (by simp [reset]), hreset p hT,
      fun d hd => ?_⟩
    obtain rfl : d = p.buffer := by simpa using hd
    exact hwhole p hact hT fun pos b hb => hp.shaped.received_of_whole hcount hb
  · exact ⟨p, none, hplace, fun _ => ⟨hp.shaped, hlt⟩, hT, by simp⟩

/-! ## What a segment does -/

/-- The command of a segment. -/
def command (segment : Bytes) : UInt8 := segment.byte 1 &&& commandMask

/-- A FIRST_SEGMENT that `handleFirst` takes up. -/
def StartsDatagram (segment : Bytes) : Prop :=
  FcsValid segment ∧ command segment = firstSegment ∧ 4 ≤ segment.length - fcsLen ∧
    declaredSize segment ≠ 0 ∧ payloadStart segment (segment.length - fcsLen) 4 ≠ none

/-- A FIRST_SEGMENT that `handleFirst` refuses after it has assigned the size: the size is zero or
the header extension runs past the segment. -/
def RefusedFirst (segment : Bytes) : Prop :=
  FcsValid segment ∧ command segment = firstSegment ∧ 4 ≤ segment.length - fcsLen ∧
    (declaredSize segment = 0 ∨ payloadStart segment (segment.length - fcsLen) 4 = none)

/-- The offset and the payload that a segment carries. -/
def placement (segment : Bytes) : Option (ℕ × Bytes) :=
  let bodyLen := segment.length - fcsLen
  if command segment = firstSegment then
    (payloadStart segment bodyLen 4).map fun start => (0, segment.subspan start (bodyLen - start))
  else
    (payloadStart segment bodyLen 5).map fun start =>
      (declaredOffset segment, segment.subspan start (bodyLen - start))

/-- The segment carries byte `b` of position `pos`, under a valid check sequence. -/
def Carries (segment : Bytes) (pos : ℕ) (b : UInt8) : Prop :=
  FcsValid segment ∧ ∃ offset payload, placement segment = some (offset, payload) ∧
    offset ≤ pos ∧ payload[pos - offset]? = some b

/-- The assembler that a FIRST_SEGMENT sets up. -/
def started (segment : Bytes) : Assembler where
  active := true
  sessionId := declaredSession segment
  datagramSize := declaredSize segment
  receivedCount := 0
  buffer := List.replicate (declaredSize segment) 0
  received := List.replicate (declaredSize segment) false

/-- A datagram that has just started is well shaped. -/
theorem started_shaped (segment : Bytes) : (started segment).Shaped := by
  refine ⟨by simp [started], by simp [started], ?_⟩
  simp [started, List.count_replicate]

/-- The four things that a segment can do, each with what `feedSegment` returns then. -/
inductive Fed (a : Assembler) (segment : Bytes) : Except Fault (Assembler × Option Bytes) → Prop
  /-- The segment is ignored. -/
  | ignored (starts : ¬ StartsDatagram segment) (refused : ¬ RefusedFirst segment) :
    Fed a segment (.ok (a, none))
  /-- A FIRST_SEGMENT is refused, but its size and session stay. -/
  | refused (starts : ¬ StartsDatagram segment) (refused : RefusedFirst segment) :
    Fed a segment (.ok ({ a with
      datagramSize := declaredSize segment
      sessionId := declaredSession segment }, none))
  /-- A FIRST_SEGMENT starts a datagram. -/
  | started {payload : Bytes} (starts : StartsDatagram segment)
    (carried : placement segment = some (0, payload)) :
    Fed a segment (place (started segment) 0 payload)
  /-- A SUBSEQUENT_SEGMENT goes into the datagram in flight. -/
  | placed {offset : ℕ} {payload : Bytes} (valid : FcsValid segment)
    (starts : ¬ StartsDatagram segment) (refused : ¬ RefusedFirst segment)
    (active : a.active = true) (carried : placement segment = some (offset, payload)) :
    Fed a segment (place a offset payload)

/-- `handleFirst` ignores, refuses or takes up a segment. -/
theorem handleFirst_fed (a : Assembler) {segment : Bytes} (hfcs : FcsValid segment)
    (hfirst : command segment = firstSegment) :
    Fed a segment (a.handleFirst segment (segment.length - fcsLen)) := by
  unfold handleFirst
  by_cases hlen : segment.length - fcsLen < 4
  · rw [if_pos hlen]
    have hstarts : ¬ StartsDatagram segment := fun h => absurd h.2.2.1 (by omega)
    have hrefused : ¬ RefusedFirst segment := fun h => absurd h.2.2.1 (by omega)
    exact .ignored hstarts hrefused
  rw [if_neg hlen]
  have hlen' : 4 ≤ segment.length - fcsLen := by omega
  -- From here on the size and the session id are those of the segment, whatever becomes of it.
  cases hstart : payloadStart segment (segment.length - fcsLen) 4 with
  | none =>
    have hstarts : ¬ StartsDatagram segment := fun h => h.2.2.2.2 hstart
    exact .refused hstarts ⟨hfcs, hfirst, hlen', Or.inr hstart⟩
  | some start =>
    by_cases hsize : declaredSize segment = 0
    · have hstarts : ¬ StartsDatagram segment := fun h => h.2.2.2.1 hsize
      dsimp only
      rw [if_pos hsize]
      exact .refused hstarts ⟨hfcs, hfirst, hlen', Or.inl hsize⟩
    · have hstarts : StartsDatagram segment := ⟨hfcs, hfirst, hlen', hsize, by simp [hstart]⟩
      have hcarried : placement segment =
          some (0, segment.subspan start (segment.length - fcsLen - start)) := by
        simp [placement, hfirst, hstart]
      dsimp only
      rw [if_neg hsize]
      exact .started hstarts hcarried

/-- `handleSubsequent` ignores a segment or places it. -/
theorem handleSubsequent_fed (a : Assembler) {segment : Bytes} (hfcs : FcsValid segment)
    (hfirst : command segment ≠ firstSegment) :
    Fed a segment (a.handleSubsequent segment (segment.length - fcsLen)) := by
  have hstarts : ¬ StartsDatagram segment := fun h => hfirst h.2.1
  have hrefused : ¬ RefusedFirst segment := fun h => hfirst h.2.1
  unfold handleSubsequent
  split_ifs with hidle hsession
  · exact .ignored hstarts hrefused
  · exact .ignored hstarts hrefused
  cases hstart : payloadStart segment (segment.length - fcsLen) 5 with
  | none => exact .ignored hstarts hrefused
  | some start =>
    have hactive : a.active = true := by simpa using (not_or.mp hidle).1
    have hcarried : placement segment = some (declaredOffset segment,
        segment.subspan start (segment.length - fcsLen - start)) := by
      simp [placement, hfirst, hstart]
    exact .placed hfcs hstarts hrefused hactive hcarried

/-- Whatever the segment, feeding it does one of the things that `Fed` lists, or faults. -/
theorem feedSegment_fed (a : Assembler) (segment : Bytes) :
    Fed a segment (a.feedSegment segment) := by
  unfold feedSegment
  by_cases hfcs : FcsValid segment
  swap
  · rw [if_pos hfcs]
    exact .ignored (fun h => hfcs h.1) fun h => hfcs h.1
  rw [if_neg (not_not.mpr hfcs)]
  show Fed a segment (if command segment = firstSegment then _ else _)
  by_cases hfirst : command segment = firstSegment
  · rw [if_pos hfirst]
    exact handleFirst_fed a hfcs hfirst
  · rw [if_neg hfirst]
    split
    · exact handleSubsequent_fed a hfcs hfirst
    · exact .ignored (fun h => hfirst h.2.1) fun h => hfirst h.2.1

end Assembler

/-! ## Runs -/

/-- A call on an assembler. -/
inductive Op
  /-- `feedSegment`. -/
  | feed (segment : Bytes)
  /-- `reset`. -/
  | reset

/-- One call. A fault ends the run: from there on the source's behaviour is undefined. -/
def step : Except Fault Assembler → Op → Except Fault Assembler × List Bytes
  | .error fault, _ => (.error fault, [])
  | .ok a, .reset => (.ok a.reset, [])
  | .ok a, .feed segment =>
    match a.feedSegment segment with
    | .error fault => (.error fault, [])
    | .ok (a', datagram) => (.ok a', datagram.toList)

/-- The state after a run from a fresh assembler. -/
def after (ops : List Op) : Except Fault Assembler := exec step (.ok {}) ops

/-- The calls of a run from a fresh assembler. -/
def history (ops : List Op) : List (Taken (Except Fault Assembler) Op) := trace step (.ok {}) ops

/-- The call feeds a FIRST_SEGMENT that starts a datagram. -/
def Starts (t : Taken (Except Fault Assembler) Op) : Prop :=
  ∃ segment, t.input = .feed segment ∧ Assembler.StartsDatagram segment

/-- The call feeds a segment that carries byte `b` of position `pos`. -/
def Feeds (pos : ℕ) (b : UInt8) (t : Taken (Except Fault Assembler) Op) : Prop :=
  ∃ segment, t.input = .feed segment ∧ Assembler.Carries segment pos b

/-- Every byte of a datagram was carried, for its position, by a segment fed since the
FIRST_SEGMENT that started the datagram. -/
def OnlyReceived (calls : List (Taken (Except Fault Assembler) Op)) (datagram : Bytes) : Prop :=
  ∃ start rest, Since Starts calls start rest ∧
    ∀ pos b, datagram[pos]? = some b → ∃ t ∈ start :: rest, Feeds pos b t

/-- A run in which the invariant holds in every state, no index is out of range, and every
datagram that comes out has only positions that were received. -/
structure Sound (ops : List Op) : Prop where
  /-- No call faults, and the invariant holds after each. -/
  inv : ∀ pre, pre <+: ops → ∃ a, after pre = .ok a ∧ a.Inv
  /-- Every datagram that comes out was received. -/
  received : ∀ pre op, pre ++ [op] <+: ops → ∀ datagram ∈ (step (after pre) op).2,
    OnlyReceived (history (pre ++ [op])) datagram

/-- The call is not a refused FIRST_SEGMENT that declares another size than the datagram in
flight. -/
def KeepsSize (a : Assembler) : Op → Prop
  | .feed segment => a.active = true → Assembler.RefusedFirst segment →
      Assembler.declaredSize segment = a.datagramSize
  | .reset => True

/-- The positions that a datagram in flight has received were carried by the segments fed since
its FIRST_SEGMENT. -/
def Tracked (calls : List (Taken (Except Fault Assembler) Op)) (a : Assembler) : Prop :=
  a.active = true → ∃ start rest, Since Starts calls start rest ∧
    ∀ pos b, a.received[pos]? = some true → a.buffer[pos]? = some b →
      ∃ t ∈ start :: rest, Feeds pos b t

/-- A call that starts no datagram keeps what is tracked, for the vectors it leaves alone. -/
theorem Tracked.concat {calls : List (Taken (Except Fault Assembler) Op)} {a a' : Assembler}
    {t : Taken (Except Fault Assembler) Op} (h : Tracked calls a) (ht : ¬ Starts t)
    (hact : a'.active = true → a.active = true)
    (hkeep : ∀ pos b, a'.received[pos]? = some true → a'.buffer[pos]? = some b →
      (a.received[pos]? = some true ∧ a.buffer[pos]? = some b) ∨ Feeds pos b t) :
    Tracked (calls ++ [t]) a' := by
  intro ha'
  obtain ⟨start, rest, hsince, hfed⟩ := h (hact ha')
  refine ⟨start, rest ++ [t], hsince.concat ht, fun pos b hr hb => ?_⟩
  rcases hkeep pos b hr hb with ⟨hr', hb'⟩ | hfeeds
  · obtain ⟨u, hu, hfeeds⟩ := hfed pos b hr' hb'
    refine ⟨u, ?_, hfeeds⟩
    rcases List.mem_cons.mp hu with rfl | hu
    · exact List.mem_cons_self
    · exact List.mem_cons_of_mem _ (List.mem_append_left _ hu)
  · exact ⟨t, List.mem_cons_of_mem _ (by simp), hfeeds⟩

/-- After a placement that is tracked, the outcome of `place` is: no fault, the invariant, what is
in flight tracked, and a datagram that comes out only received. -/
theorem place_tracked {calls : List (Taken (Except Fault Assembler) Op)} {a : Assembler}
    (hshaped : a.Shaped) (offset : ℕ) (payload : Bytes)
    (htracked : ∀ p, Assembler.Placed a p offset payload → p.active = a.active → Tracked calls p)
    (hact : a.active = true) :
    ∃ a' datagram, a.place offset payload = .ok (a', datagram) ∧ a'.Inv ∧ Tracked calls a' ∧
      ∀ d ∈ datagram.toList, OnlyReceived calls d := by
  refine Assembler.place_keeps hshaped offset payload (fun p _ hp hplaced => htracked p hplaced hp)
    (fun p _ h => absurd h (by simp [Assembler.reset])) fun p hp htr hreceived => ?_
  obtain ⟨start, rest, hsince, hfed⟩ := htr (hp.trans hact)
  exact ⟨start, rest, hsince, fun pos b hb => hfed pos b (hreceived pos b hb) hb⟩

/-- One call that keeps the size of the datagram in flight: it does not fault, it keeps the
invariant and the tracking, and what comes out was received. -/
theorem step_sound {calls : List (Taken (Except Fault Assembler) Op)} {a : Assembler} {op : Op}
    (hinv : a.Inv) (htr : Tracked calls a) (hkeeps : KeepsSize a op) :
    ∃ a', (step (.ok a) op).1 = .ok a' ∧ a'.Inv ∧ Tracked (calls ++ [⟨.ok a, op⟩]) a' ∧
      ∀ d ∈ (step (.ok a) op).2, OnlyReceived (calls ++ [⟨.ok a, op⟩]) d := by
  cases op with
  | reset =>
    refine ⟨a.reset, rfl, fun h => absurd h (by simp [Assembler.reset]),
      fun h => absurd h (by simp [Assembler.reset]), by simp [step]⟩
  | feed segment =>
    -- A segment that is not a fresh FIRST_SEGMENT does not start a datagram in the history.
    have hnotStarts : ¬ Assembler.StartsDatagram segment →
        ¬ Starts (⟨.ok a, .feed segment⟩ : Taken (Except Fault Assembler) Op) := by
      rintro hs ⟨seg, heq, hseg⟩
      exact hs (by rw [Op.feed.inj heq]; exact hseg)
    have hfed := a.feedSegment_fed segment
    generalize hresult : a.feedSegment segment = result at hfed
    simp only [step, hresult]
    cases hfed with
    | ignored hs _ =>
      exact ⟨a, rfl, hinv, htr.concat (hnotStarts hs) id fun _ _ hr hb => Or.inl ⟨hr, hb⟩, by simp⟩
    | refused hs hrefused =>
      refine ⟨_, rfl, fun hact => ?_, htr.concat (hnotStarts hs) id
        fun _ _ hr hb => Or.inl ⟨hr, hb⟩, by simp⟩
      -- The refused segment declares the size that the datagram already has.
      have hsize := hkeeps hact hrefused
      obtain ⟨hshaped, hlt⟩ := hinv hact
      exact ⟨⟨hshaped.buffer.trans hsize.symm, hshaped.received.trans hsize.symm, hshaped.count⟩,
        by simpa [hsize] using hlt⟩
    | @started payload hs hpl =>
      -- Nothing was received when the datagram started, so every filled position is the segment's.
      have htracked : ∀ p, Assembler.Placed (Assembler.started segment) p 0 payload →
          p.active = (Assembler.started segment).active →
          Tracked (calls ++ [⟨.ok a, .feed segment⟩]) p := by
        intro p hplaced _ _
        refine ⟨_, [], Since.fresh calls ⟨segment, rfl, hs⟩, fun pos b hr hb => ?_⟩
        rcases hplaced.filled pos b hr hb with ⟨hr', -⟩ | ⟨hle, hb'⟩
        · have hfree := List.eq_of_mem_replicate (List.mem_of_getElem? hr')
          exact absurd hfree (by decide)
        · exact ⟨_, List.mem_cons_self, segment, rfl, hs.1, 0, payload, hpl, hle, hb'⟩
      obtain ⟨a', d, hplace, h⟩ :=
        place_tracked (Assembler.started_shaped segment) 0 payload htracked rfl
      simp only [hplace]
      exact ⟨a', rfl, h⟩
    | @placed offset payload hfcs hs _ hact hpl =>
      have htracked : ∀ p, Assembler.Placed a p offset payload → p.active = a.active →
          Tracked (calls ++ [⟨.ok a, .feed segment⟩]) p := by
        intro p hplaced hp
        refine htr.concat (hnotStarts hs) (fun h => hp ▸ h) fun pos b hr hb => ?_
        refine (hplaced.filled pos b hr hb).imp_right fun ⟨hle, hb'⟩ => ?_
        exact ⟨segment, rfl, hfcs, offset, payload, hpl, hle, hb'⟩
      obtain ⟨a', d, hplace, h⟩ :=
        place_tracked (hinv hact).1 offset payload htracked hact
      simp only [hplace]
      exact ⟨a', rfl, h⟩

/-- A run whose calls all keep the size of the datagram in flight reaches, with no fault, a state
with the invariant and the tracking. -/
theorem after_sound (ops : List Op)
    (h : ∀ pre op, pre ++ [op] <+: ops → ∀ a, after pre = .ok a → KeepsSize a op) :
    ∃ a, after ops = .ok a ∧ a.Inv ∧ Tracked (history ops) a := by
  induction ops using List.reverseRecOn with
  | nil => exact ⟨{}, rfl, by simp [Assembler.Inv], by simp [Tracked]⟩
  | append_singleton ops op ih =>
    obtain ⟨a, ha, hinv, htr⟩ := ih fun pre op' hpre =>
      h pre op' (hpre.trans (List.prefix_append _ _))
    obtain ⟨a', ha', hinv', htr', -⟩ := step_sound hinv htr (h ops op List.prefix_rfl a ha)
    have hexec : after (ops ++ [op]) = (step (.ok a) op).1 := by
      rw [after, exec_concat, ← after, ha]
    have hcalls : history (ops ++ [op]) = history ops ++ [⟨.ok a, op⟩] := by
      rw [history, trace_concat, ← history, ← after, ha]
    rw [hexec, hcalls]
    exact ⟨a', ha', hinv', htr'⟩

/-- A run is sound exactly when no call feeds, while a datagram is in flight, a FIRST_SEGMENT that
is refused and declares another size. -/
theorem sound_iff (ops : List Op) :
    Sound ops ↔
      ∀ pre op, pre ++ [op] <+: ops → ∀ a, after pre = .ok a → KeepsSize a op := by
  constructor
  · intro hsound pre op hpre a ha
    cases op with
    | reset => trivial
    | feed segment =>
      intro hact hrefused
      obtain ⟨a₀, ha₀, hinv⟩ := hsound.inv pre ((List.prefix_append _ _).trans hpre)
      obtain rfl : a₀ = a := Except.ok.inj (ha₀.symm.trans ha)
      obtain ⟨a', ha', hinv'⟩ := hsound.inv _ hpre
      have hfeed : a'.datagramSize = Assembler.declaredSize segment ∧ a'.active = true ∧
          a'.buffer = a₀.buffer := by
        rw [after, exec_concat, ← after, ha] at ha'
        have hfed := a₀.feedSegment_fed segment
        generalize hresult : a₀.feedSegment segment = result at hfed
        cases hfed with
        | ignored _ hnot | placed _ _ hnot => exact absurd hrefused hnot
        | refused =>
          simp only [step, hresult] at ha'
          rw [← Except.ok.inj ha']
          exact ⟨rfl, hact, rfl⟩
        | started hs =>
          rcases hrefused.2.2.2 with h | h
          · exact absurd h hs.2.2.2.1
          · exact absurd h hs.2.2.2.2
      -- The buffer is still the old datagram's, while the size is the refused segment's.
      rw [← hfeed.1, ← (hinv' hfeed.2.1).1.buffer, hfeed.2.2, (hinv hact).1.buffer]
  · intro h
    have hpre : ∀ pre, pre <+: ops → ∃ a, after pre = .ok a ∧ a.Inv ∧ Tracked (history pre) a :=
      fun pre hpre => after_sound pre fun p op hp => h p op (hp.trans hpre)
    refine ⟨fun pre hp => ?_, fun pre op hp d hd => ?_⟩
    · obtain ⟨a, ha, hinv, -⟩ := hpre pre hp
      exact ⟨a, ha, hinv⟩
    · obtain ⟨a, ha, hinv, htr⟩ := hpre pre ((List.prefix_append _ _).trans hp)
      obtain ⟨-, -, -, -, hout⟩ := step_sound hinv htr (h pre op hp a ha)
      rw [history, trace_concat, ← history, ← after, ha]
      exact hout d (by rw [← ha]; exact hd)

/-- Three segments with valid check sequences: one byte of a two-byte datagram, a FIRST_SEGMENT of
five bytes whose header extension is missing, and a SUBSEQUENT_SEGMENT at offset three. -/
def overrun : List Op :=
  [.feed [0x55, 0xC0, 0x02, 0x00, 0x25, 0x6E, 0xA8], .feed [0x55, 0xC0, 0x05, 0x08, 0x9F, 0x64],
    .feed [0x55, 0xE0, 0x05, 0x00, 0x03, 0x01, 0xC0, 0x90]]

/-- The third segment of `overrun` indexes element three of a table of two. -/
theorem overrun_faults :
    after overrun = .error (.outOfRange 3 2) ∧ ¬ ∀ ops, Sound ops := by
  have hfault : after overrun = .error (.outOfRange 3 2) := by decide +kernel
  refine ⟨hfault, fun h => ?_⟩
  obtain ⟨a, ha, -⟩ := (h overrun).inv overrun List.prefix_rfl
  rw [hfault] at ha
  cases ha

end Zwaved.TransportService
