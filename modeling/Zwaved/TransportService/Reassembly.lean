import Zwaved.TransportService.Split

/-!
# Split and reassembled

The segments of one datagram, fed to an assembler. `Filling` is the state in between: the positions
that have been received are those of the pieces that were fed, and they hold the datagram's bytes.
A piece that comes again changes nothing, and the piece that was still missing brings the datagram
out.

`reassembles`: behind the FIRST_SEGMENT the others may come in any order and any number of times,
into whatever state the assembler was in. `returns_iff`: where the FIRST_SEGMENT itself may come
late or again, the datagram comes out exactly if all the others come between two of its copies,
since the assembler drops what overtakes a FIRST_SEGMENT and starts over at each.
-/

namespace Zwaved.TransportService

open Reactive

namespace Assembler

/-- Placing a payload fills the positions that it covers, and no others. -/
theorem received_placeFrom (payload : Bytes) {a p : Assembler} (h : a.Shaped) {pos : ℕ}
    (heq : placeFrom a pos payload = .ok p) (q : ℕ) :
    p.received[q]? = some true ↔
      a.received[q]? = some true ∨ (pos ≤ q ∧ q < pos + payload.length ∧ q < a.datagramSize) := by
  -- The bytes are placed one after another; a position is filled before them or by one of them.
  induction payload generalizing a pos with
  | nil =>
    obtain rfl := Except.ok.inj heq
    refine ⟨Or.inl, ?_⟩
    rintro (hold | ⟨hle, hlt, -⟩)
    · exact hold
    · simp only [List.length_nil] at hlt
      omega
  | cons byte payload ih =>
    unfold placeFrom at heq
    -- Behind the end of the datagram nothing is placed.
    by_cases hpos : pos ≥ a.datagramSize
    · rw [if_pos hpos] at heq
      obtain rfl := Except.ok.inj heq
      refine ⟨Or.inl, ?_⟩
      rintro (hold | ⟨hle, -, hlt⟩)
      · exact hold
      · omega
    rw [if_neg hpos] at heq
    have hlt : pos < a.received.length := by rw [h.received]; omega
    rw [List.length_cons]
    -- The place of the byte is in the datagram, so it has been filled or not.
    cases hr : a.received[pos]? with
    | none => rw [List.getElem?_eq_none_iff] at hr; omega
    | some v =>
      rw [hr] at heq
      cases v with
      | true =>
        refine (ih h heq).trans ⟨?_, ?_⟩
        · rintro (hold | hnew)
          · exact Or.inl hold
          · exact Or.inr (by omega)
        · rintro (hold | hnew)
          · exact Or.inl hold
          · by_cases hq : q = pos
            · exact Or.inl (by rw [hq, hr])
            · exact Or.inr (by omega)
      | false =>
        have hbuf : pos < a.buffer.length := by rw [h.buffer, ← h.received]; exact hlt
        dsimp only at heq
        rw [if_pos hbuf] at heq
        refine (ih (h.fill byte hr) heq).trans ?_
        -- The byte just placed is there now, and the others are as they were.
        by_cases hq : q = pos
        · subst hq
          simp only [List.getElem?_set_self hlt]
          exact ⟨fun _ => Or.inr (by omega), fun _ => Or.inl trivial⟩
        · rw [List.getElem?_set_ne (Ne.symm hq)]
          constructor
          · rintro (hold | hnew)
            · exact Or.inl hold
            · exact Or.inr (by dsimp only at hnew; omega)
          · rintro (hold | hnew)
            · exact Or.inl hold
            · exact Or.inr (by dsimp only; omega)

/-- A well shaped datagram is whole exactly if every position of it was received. -/
theorem Shaped.whole_iff {a : Assembler} (h : a.Shaped) :
    a.receivedCount = a.datagramSize ↔ ∀ q < a.datagramSize, a.received[q]? = some true := by
  rw [h.count, ← h.received, List.count_eq_length]
  constructor
  · intro hall q hq
    rw [List.getElem?_eq_getElem hq, hall _ (List.getElem_mem hq)]
  · intro hall b hb
    obtain ⟨q, hq, rfl⟩ := List.mem_iff_getElem.mp hb
    have hreceived := hall q hq
    rw [List.getElem?_eq_getElem hq] at hreceived
    exact (Option.some.inj hreceived).symm

end Assembler

section Pieces

variable {datagram : Bytes} {sessionId : UInt8} {fed : List Bytes} {a : Assembler}

/-- The SUBSEQUENT_SEGMENT with the `j`-th piece. -/
def pieceSegment (datagram : Bytes) (sessionId : UInt8) (j : ℕ) : Bytes :=
  subsequentSegmentOf datagram sessionId (segmentPayloadMax * j)

/-- The `j`-th piece itself. -/
def piece (datagram : Bytes) (j : ℕ) : Bytes :=
  datagram.subspan (segmentPayloadMax * j)
    (min segmentPayloadMax (datagram.length - segmentPayloadMax * j))

/-- Every piece but the first was fed. -/
def Covers (datagram : Bytes) (sessionId : UInt8) (fed : List Bytes) : Prop :=
  ∀ j, 1 ≤ j → segmentPayloadMax * j < datagram.length → pieceSegment datagram sessionId j ∈ fed

/-- What was received of a datagram are bytes of it. -/
def Faithful (datagram : Bytes) (a : Assembler) : Prop :=
  ∀ (q : ℕ) (b : UInt8), a.received[q]? = some true → a.buffer[q]? = some b → datagram[q]? = some b

/-- A piece is a full segment's payload, or what is left of the datagram. -/
theorem length_piece (datagram : Bytes) (j : ℕ) :
    (piece datagram j).length =
      min segmentPayloadMax (datagram.length - segmentPayloadMax * j) := by
  simp [piece, Bytes.subspan]

/-- A byte of a piece is the datagram's at its place. -/
theorem getElem?_piece {j i : ℕ} {b : UInt8} (h : (piece datagram j)[i]? = some b) :
    datagram[segmentPayloadMax * j + i]? = some b := by
  unfold piece Bytes.subspan at h
  rw [List.getElem?_take] at h
  split at h
  · rwa [List.getElem?_drop] at h
  · cases h

/-- Different pieces are in different segments. -/
theorem pieceSegment_inj (hle : datagram.length ≤ 2047) {i j : ℕ}
    (hi : segmentPayloadMax * i < datagram.length) (hj : segmentPayloadMax * j < datagram.length)
    (h : pieceSegment datagram sessionId i = pieceSegment datagram sessionId j) : i = j := by
  have hoffset := congrArg Assembler.declaredOffset h
  unfold pieceSegment at hoffset
  rw [declaredOffset_subsequent _ _ (by omega), declaredOffset_subsequent _ _ (by omega)] at hoffset
  simp only [segmentPayloadMax] at hoffset
  omega

/-- One piece goes in: its positions are received, and the datagram comes out if there is no other
position left. -/
theorem place_piece (hshaped : a.Shaped) (hsize : a.datagramSize = datagram.length)
    (hfaithful : Faithful datagram a) (j : ℕ) :
    ∃ p : Assembler, p.active = a.active ∧ p.sessionId = a.sessionId ∧ p.Shaped ∧
      p.datagramSize = datagram.length ∧ Faithful datagram p ∧
      (∀ q < datagram.length, p.received[q]? = some true ↔
        a.received[q]? = some true ∨ q / segmentPayloadMax = j) ∧
      (((∀ q < datagram.length, p.received[q]? = some true) ∧
          a.place (segmentPayloadMax * j) (piece datagram j) = .ok (p.reset, some datagram)) ∨
        ((¬ ∀ q < datagram.length, p.received[q]? = some true) ∧
          a.place (segmentPayloadMax * j) (piece datagram j) = .ok (p, none))) := by
  obtain ⟨p, heq, hact, hplaced⟩ :=
    Assembler.placeFrom_spec (piece datagram j) a hshaped (segmentPayloadMax * j)
  have hsession := Assembler.sessionId_placeFrom (piece datagram j) heq
  have hreceived := Assembler.received_placeFrom (piece datagram j) hshaped heq
  have hpsize : p.datagramSize = datagram.length := hplaced.size.trans hsize
  have hpfaithful : Faithful datagram p := by
    intro q b hr hb
    rcases hplaced.filled q b hr hb with ⟨hr', hb'⟩ | ⟨hle, hb'⟩
    · exact hfaithful q b hr' hb'
    · have hbyte := getElem?_piece hb'
      rwa [Nat.add_sub_cancel' hle] at hbyte
  refine ⟨p, hact, hsession, hplaced.shaped, hpsize, hpfaithful, fun q hq => ?_, ?_⟩
  · rw [hreceived q, length_piece, hsize]
    have hcovered : (segmentPayloadMax * j ≤ q ∧ q < segmentPayloadMax * j +
        min segmentPayloadMax (datagram.length - segmentPayloadMax * j) ∧ q < datagram.length) ↔
        q / segmentPayloadMax = j := by
      simp only [segmentPayloadMax]
      omega
    rw [hcovered]
  · have hwhole := hplaced.shaped.whole_iff
    rw [hpsize] at hwhole
    rcases Assembler.place_of_placeFrom heq hplaced.shaped with ⟨hcount, hplace⟩ | ⟨hlt, hplace⟩
    · have hall := hwhole.mp (hcount.trans hpsize)
      -- Every position was received, so the buffer is the datagram.
      have hbuffer : p.buffer = datagram := by
        have hlen : p.buffer.length = datagram.length := hplaced.shaped.buffer.trans hpsize
        refine List.ext_getElem? fun q => ?_
        by_cases hq : q < datagram.length
        · have hb : p.buffer[q]? = some (p.buffer.get ⟨q, by omega⟩) :=
            List.getElem?_eq_getElem (by omega)
          rw [hb, hpfaithful q _ (hall q hq) hb]
        · rw [List.getElem?_eq_none (by omega), List.getElem?_eq_none (by omega)]
      rw [hbuffer] at hplace
      exact Or.inl ⟨hall, hplace⟩
    · refine Or.inr ⟨fun hall => ?_, hplace⟩
      have hcount := hwhole.mpr hall
      omega

/-- The state between the segments of one datagram: the positions received are those of the first
piece and of the pieces fed since. -/
structure Filling (datagram : Bytes) (sessionId : UInt8) (fed : List Bytes) (a : Assembler) :
    Prop where
  /-- The datagram is in flight. -/
  active : a.active = true
  /-- Its session. -/
  session : a.sessionId = sessionOf sessionId
  /-- Its size. -/
  size : a.datagramSize = datagram.length
  /-- The vectors fit. -/
  shaped : a.Shaped
  /-- What was received are bytes of the datagram. -/
  faithful : Faithful datagram a
  /-- The positions received. -/
  received : ∀ q < datagram.length, a.received[q]? = some true ↔
    q / segmentPayloadMax = 0 ∨ pieceSegment datagram sessionId (q / segmentPayloadMax) ∈ fed

/-- Every position is received exactly if every piece was fed. -/
theorem covers_iff (datagram : Bytes) (sessionId : UInt8) (fed : List Bytes) :
    Covers datagram sessionId fed ↔ ∀ q < datagram.length,
      q / segmentPayloadMax = 0 ∨ pieceSegment datagram sessionId (q / segmentPayloadMax) ∈ fed := by
  constructor
  · intro h q hq
    rcases Nat.eq_zero_or_pos (q / segmentPayloadMax) with hzero | hpos
    · exact Or.inl hzero
    · exact Or.inr (h _ hpos (by simp only [segmentPayloadMax]; omega))
  · intro h j hj hlt
    have hdiv : segmentPayloadMax * j / segmentPayloadMax = j :=
      Nat.mul_div_cancel_left j (by decide)
    rcases h _ hlt with hzero | hmem
    · omega
    · rwa [hdiv] at hmem

/-- What became of the datagram with the last segment fed: it came out if all of it is there. -/
inductive Outcome (datagram : Bytes) (sessionId : UInt8) (fed : List Bytes) :
    Except Fault (Assembler × Option Bytes) → Prop
  /-- The datagram is whole. -/
  | whole {a : Assembler} (covers : Covers datagram sessionId fed) (idle : a.active = false) :
    Outcome datagram sessionId fed (.ok (a, some datagram))
  /-- A piece is missing. -/
  | more {a : Assembler} (missing : ¬ Covers datagram sessionId fed)
    (filling : Filling datagram sessionId fed a) : Outcome datagram sessionId fed (.ok (a, none))

/-- Placing one piece of the datagram has the outcome that what is received with it calls for: the
datagram if that is all, and otherwise nothing. -/
theorem outcome_of_place (hactive : a.active = true) (hsession : a.sessionId = sessionOf sessionId)
    (hshaped : a.Shaped) (hsize : a.datagramSize = datagram.length)
    (hfaithful : Faithful datagram a) (j : ℕ) (fed : List Bytes)
    (hreceived : ∀ q < datagram.length,
      (a.received[q]? = some true ∨ q / segmentPayloadMax = j) ↔
        (q / segmentPayloadMax = 0 ∨
          pieceSegment datagram sessionId (q / segmentPayloadMax) ∈ fed)) :
    Outcome datagram sessionId fed (a.place (segmentPayloadMax * j) (piece datagram j)) := by
  obtain ⟨p, hpact, hpsession, hpshaped, hpsize, hpfaithful, hpreceived, hplace⟩ :=
    place_piece hshaped hsize hfaithful j
  -- The piece fills exactly its own positions, so the places filled stand for the segments fed.
  have hfilled : ∀ q < datagram.length, p.received[q]? = some true ↔
      q / segmentPayloadMax = 0 ∨
        pieceSegment datagram sessionId (q / segmentPayloadMax) ∈ fed :=
    fun q hq => (hpreceived q hq).trans (hreceived q hq)
  have hcovers : Covers datagram sessionId fed ↔
      ∀ q < datagram.length, p.received[q]? = some true := by
    rw [covers_iff]
    exact forall₂_congr fun q hq => (hfilled q hq).symm
  -- With every place filled the datagram is returned, and otherwise the assembler goes on with what
  -- it has.
  rcases hplace with ⟨hall, heq⟩ | ⟨hmissing, heq⟩
  · rw [heq]
    exact .whole (hcovers.mpr hall) rfl
  · rw [heq]
    refine .more (fun h => hmissing (hcovers.mp h)) ?_
    exact ⟨hpact.trans hactive, hpsession.trans hsession, hpsize, hpshaped, hpfaithful, hfilled⟩

/-- A FIRST_SEGMENT leaves the datagram with its first piece, whatever was there before. -/
theorem outcome_first (hpos : 0 < datagram.length) (hle : datagram.length ≤ 2047)
    (sessionId : UInt8) (a : Assembler) :
    Outcome datagram sessionId [] (a.feedSegment (firstSegmentOf datagram sessionId)) := by
  have hfree : ∀ q : ℕ, (begun datagram sessionId).received[q]? ≠ some true := by
    intro q hr
    have hfalse := List.eq_of_mem_replicate (List.mem_of_getElem? hr)
    exact absurd hfalse (by decide)
  have hshaped : (begun datagram sessionId).Shaped := by
    refine ⟨by simp [begun], by simp [begun], ?_⟩
    simp [begun, List.count_replicate]
  rw [feedSegment_first a hpos hle sessionId]
  refine outcome_of_place rfl rfl hshaped rfl (fun q b hr => absurd hr (hfree q)) 0 [] ?_
  intro q _
  simp only [hfree q, false_or, List.not_mem_nil, or_false]

/-- Another piece goes into a datagram that is being filled. -/
theorem Filling.outcome (h : Filling datagram sessionId fed a) (hle : datagram.length ≤ 2047)
    {j : ℕ} (hlt : segmentPayloadMax * j < datagram.length) :
    Outcome datagram sessionId (fed ++ [pieceSegment datagram sessionId j])
      (a.feedSegment (pieceSegment datagram sessionId j)) := by
  have hfeed : a.feedSegment (pieceSegment datagram sessionId j) =
      a.place (segmentPayloadMax * j) (piece datagram j) :=
    feedSegment_subsequent h.active h.session hle hlt
  rw [hfeed]
  refine outcome_of_place h.active h.session h.shaped h.size h.faithful j _ fun q hq => ?_
  have hpiece : pieceSegment datagram sessionId (q / segmentPayloadMax) =
      pieceSegment datagram sessionId j ↔ q / segmentPayloadMax = j := by
    refine ⟨pieceSegment_inj hle ?_ hlt, fun heq => by rw [heq]⟩
    simp only [segmentPayloadMax]
    omega
  rw [h.received q hq, List.mem_append, List.mem_singleton, hpiece, or_assoc]

end Pieces

/-! ## Sequences of segments -/

namespace Assembler

/-- One call of `feedSegment` after another, with what each returns. -/
def feedAll (a : Assembler) : List Bytes → Except Fault (Assembler × List (Option Bytes))
  | [] => .ok (a, [])
  | segment :: segments => do
    let (a, returned) ← a.feedSegment segment
    let (a, rest) ← a.feedAll segments
    return (a, returned :: rest)

/-- A first segment is fed, and the rest to the assembler that it leads to. -/
theorem feedAll_cons {a a' : Assembler} {segment : Bytes} {returned : Option Bytes}
    (h : a.feedSegment segment = .ok (a', returned)) {a'' : Assembler} {segments : List Bytes}
    {rest : List (Option Bytes)} (hrest : a'.feedAll segments = .ok (a'', rest)) :
    a.feedAll (segment :: segments) = .ok (a'', returned :: rest) := by
  simp only [feedAll, h, bind, Except.bind, hrest]
  rfl

/-- A last segment is fed to the assembler that the others lead to. -/
theorem feedAll_concat {a a' : Assembler} {segments : List Bytes} {rest : List (Option Bytes)}
    (h : a.feedAll segments = .ok (a', rest)) {a'' : Assembler} {segment : Bytes}
    {returned : Option Bytes} (hlast : a'.feedSegment segment = .ok (a'', returned)) :
    a.feedAll (segments ++ [segment]) = .ok (a'', rest ++ [returned]) := by
  induction segments generalizing a rest with
  | nil =>
    obtain ⟨rfl, rfl⟩ := Prod.mk.inj (Except.ok.inj h)
    exact feedAll_cons hlast rfl
  | cons first segments ih =>
    cases hfirst : a.feedSegment first with
    | error fault => simp [feedAll, hfirst, bind, Except.bind] at h
    | ok result =>
      obtain ⟨b, returned'⟩ := result
      cases hmid : b.feedAll segments with
      | error fault => simp [feedAll, hfirst, hmid, bind, Except.bind] at h
      | ok result =>
        obtain ⟨b', rest'⟩ := result
        have heq := feedAll_cons hfirst hmid
        rw [h] at heq
        obtain ⟨rfl, rfl⟩ := Prod.mk.inj (Except.ok.inj heq)
        exact feedAll_cons hfirst (ih hmid)

end Assembler

section Sequences

variable {datagram : Bytes} {sessionId : UInt8} {a : Assembler} {first : Bytes}
  {rest segments : List Bytes}

/-- The segments of a datagram, as the assembler tells them apart. -/
theorem split_cases (hpos : 0 < datagram.length)
    (hsplit : splitOutbound datagram sessionId = first :: rest) :
    first = firstSegmentOf datagram sessionId ∧
      ∀ segment, segment ∈ rest ↔ ∃ j, 1 ≤ j ∧ segmentPayloadMax * j < datagram.length ∧
        segment = pieceSegment datagram sessionId j := by
  obtain ⟨rest', heq, hmem⟩ := splitOutbound_eq hpos sessionId
  rw [hsplit] at heq
  obtain ⟨rfl, rfl⟩ := List.cons.inj heq
  exact ⟨rfl, hmem⟩

/-- The FIRST_SEGMENT is none of the others. -/
theorem first_notMem_rest (hpos : 0 < datagram.length) (hle : datagram.length ≤ 2047)
    (hsplit : splitOutbound datagram sessionId = first :: rest) : first ∉ rest := by
  obtain ⟨rfl, hmem⟩ := split_cases hpos hsplit
  intro h
  obtain ⟨j, -, -, heq⟩ := (hmem _).mp h
  have hfirst := (reads_first hle sessionId).command
  rw [heq, pieceSegment, (reads_subsequent hle sessionId _).command] at hfirst
  exact absurd hfirst (by decide)

/-- The pieces are covered exactly if every SUBSEQUENT_SEGMENT was fed. -/
theorem covers_iff_mem (hpos : 0 < datagram.length)
    (hsplit : splitOutbound datagram sessionId = first :: rest) (fed : List Bytes) :
    Covers datagram sessionId fed ↔ ∀ segment ∈ rest, segment ∈ fed := by
  obtain ⟨-, hmem⟩ := split_cases hpos hsplit
  constructor
  · intro h segment hsegment
    obtain ⟨j, hj, hlt, rfl⟩ := (hmem segment).mp hsegment
    exact h j hj hlt
  · intro h j hj hlt
    exact h _ ((hmem _).mpr ⟨j, hj, hlt, rfl⟩)

/-- With nothing in flight, SUBSEQUENT_SEGMENTs are ignored. -/
theorem feedAll_idle (hpos : 0 < datagram.length) (hle : datagram.length ≤ 2047)
    (hsplit : splitOutbound datagram sessionId = first :: rest) (hidle : a.active = false)
    (hmem : ∀ segment ∈ segments, segment ∈ rest) :
    a.feedAll segments = .ok (a, List.replicate segments.length none) := by
  induction segments with
  | nil => rfl
  | cons segment segments ih =>
    obtain ⟨j, -, -, rfl⟩ := ((split_cases hpos hsplit).2 segment).mp (hmem _ List.mem_cons_self)
    exact Assembler.feedAll_cons (feedSegment_idle hidle hle sessionId _)
      (ih fun s hs => hmem s (List.mem_cons_of_mem _ hs))

/-- From a datagram with pieces missing: the last missing piece brings it out, and nothing else
returns anything. -/
theorem Filling.feedAll (hpos : 0 < datagram.length) (hle : datagram.length ≤ 2047)
    (hsplit : splitOutbound datagram sessionId = first :: rest) {fed : List Bytes}
    (h : Filling datagram sessionId fed a) (hmissing : ¬ Covers datagram sessionId fed)
    (hmem : ∀ segment ∈ segments, segment ∈ rest)
    (hcovers : Covers datagram sessionId (fed ++ segments)) :
    ∃ pre last post a', segments = pre ++ last :: post ∧
      ¬ Covers datagram sessionId (fed ++ pre) ∧
      Covers datagram sessionId (fed ++ pre ++ [last]) ∧
      a.feedAll segments = .ok (a', List.replicate pre.length none ++
        some datagram :: List.replicate post.length none) := by
  -- The segments are fed one by one, as long as they do not cover the datagram.
  induction segments generalizing fed a with
  | nil => exact absurd (by simpa using hcovers) hmissing
  | cons segment segments ih =>
    -- Each of them is one of the split's, and so a piece of the datagram.
    obtain ⟨j, -, hlt, rfl⟩ := ((split_cases hpos hsplit).2 segment).mp (hmem _ List.mem_cons_self)
    have hrest : ∀ segment ∈ segments, segment ∈ rest :=
      fun s hs => hmem s (List.mem_cons_of_mem _ hs)
    have houtcome := h.outcome hle hlt
    generalize hfeed : a.feedSegment (pieceSegment datagram sessionId j) = result at houtcome
    cases houtcome with
    -- This segment completes the datagram, and the assembler is idle for those that follow.
    | @whole a' hwhole hidle =>
      refine ⟨[], _, segments, a', rfl, by simpa using hmissing, by simpa using hwhole, ?_⟩
      exact Assembler.feedAll_cons hfeed (feedAll_idle hpos hle hsplit hidle hrest)
    -- It does not, and the ones that follow have to.
    | @more a' hstill hfilling =>
      obtain ⟨pre, last, post, a'', rfl, hpre, hlast, hreturned⟩ :=
        ih hfilling hstill hrest (by simpa using hcovers)
      refine ⟨_ :: pre, last, post, a'', rfl, by simpa using hpre, by simpa using hlast, ?_⟩
      exact Assembler.feedAll_cons hfeed hreturned

/-- The FIRST_SEGMENT of a datagram, and then the others in any order and any number of times: the
datagram comes out once, at the call that supplies the last missing segment. -/
theorem reassembles (hpos : 0 < datagram.length) (hle : datagram.length ≤ 2047)
    (sessionId : UInt8) (a : Assembler)
    (hsplit : splitOutbound datagram sessionId = first :: rest)
    (hmem : ∀ segment ∈ segments, segment ∈ rest)
    (hall : ∀ segment ∈ rest, segment ∈ segments) :
    ∃ pre last post a', first :: segments = pre ++ last :: post ∧
      (¬ ∀ segment ∈ first :: rest, segment ∈ pre) ∧
      (∀ segment ∈ first :: rest, segment ∈ pre ++ [last]) ∧
      a.feedAll (first :: segments) = .ok (a', List.replicate pre.length none ++
        some datagram :: List.replicate post.length none) := by
  have hcovers := covers_iff_mem hpos hsplit
  have houtcome := outcome_first hpos hle sessionId a
  rw [← (split_cases hpos hsplit).1] at houtcome
  generalize hfeed : a.feedSegment first = result at houtcome
  cases houtcome with
  | @whole a' hwhole hidle =>
    -- The datagram is one piece, and there are no other segments.
    have hnone : ∀ segment ∈ rest, segment ∈ ([] : List Bytes) := (hcovers []).mp hwhole
    refine ⟨[], first, segments, a', rfl, fun h => ?_, fun segment hsegment => ?_, ?_⟩
    · cases h first List.mem_cons_self
    · rcases List.mem_cons.mp hsegment with rfl | hsegment
      · exact List.mem_singleton_self _
      · cases hnone segment hsegment
    · exact Assembler.feedAll_cons hfeed (feedAll_idle hpos hle hsplit hidle hmem)
  | @more a' hmissing hfilling =>
    obtain ⟨pre, last, post, a'', rfl, hpre, hlast, hreturned⟩ :=
      hfilling.feedAll hpos hle hsplit hmissing hmem ((hcovers _).mpr hall)
    rw [List.nil_append, hcovers] at hpre hlast
    refine ⟨first :: pre, last, post, a'', rfl, fun h => hpre fun segment hsegment => ?_,
      fun segment hsegment => ?_, Assembler.feedAll_cons hfeed hreturned⟩
    · rcases List.mem_cons.mp (h segment (List.mem_cons_of_mem _ hsegment)) with rfl | hmem'
      · exact absurd hsegment (first_notMem_rest hpos hle hsplit)
      · exact hmem'
    · rcases List.mem_cons.mp hsegment with rfl | hsegment
      · exact List.mem_cons_self
      · exact List.mem_cons_of_mem _ (hlast segment hsegment)

/-- A datagram of forty bytes, one more than a segment holds. -/
def fortyBytes : Bytes := List.replicate 40 0x25

/-- Forty bytes are split into a FIRST_SEGMENT and one more. -/
theorem splitOutbound_fortyBytes :
    splitOutbound fortyBytes 1 = [firstSegmentOf fortyBytes 1, pieceSegment fortyBytes 1 1] := by
  have hsecond : splitFrom fortyBytes 1 39 false = [pieceSegment fortyBytes 1 1] := by
    rw [splitFrom, if_pos (by decide)]
    exact congrArg _ (splitFrom_of_le false (by decide))
  rw [splitOutbound, if_neg (by decide), splitFrom, if_pos (by decide)]
  exact congrArg _ hsecond

/-- The second segment comes twice, into an assembler that holds half of another datagram. -/
theorem reassembles_fortyBytes :
    ∃ pre last post a', [firstSegmentOf fortyBytes 1, pieceSegment fortyBytes 1 1,
        pieceSegment fortyBytes 1 1] = pre ++ last :: post ∧
      (¬ ∀ segment ∈ [firstSegmentOf fortyBytes 1, pieceSegment fortyBytes 1 1], segment ∈ pre) ∧
      (∀ segment ∈ [firstSegmentOf fortyBytes 1, pieceSegment fortyBytes 1 1],
        segment ∈ pre ++ [last]) ∧
      ({ active := true, sessionId := 1, datagramSize := 2, receivedCount := 1,
          buffer := [7, 0], received := [true, false] } : Assembler).feedAll
        [firstSegmentOf fortyBytes 1, pieceSegment fortyBytes 1 1, pieceSegment fortyBytes 1 1] =
        .ok (a', List.replicate pre.length none ++
          some fortyBytes :: List.replicate post.length none) :=
  reassembles (by decide) (by decide) 1 _ splitOutbound_fortyBytes (by simp) (by simp)

/-- Behind some copy of the FIRST_SEGMENT, and before the next one, all the other segments came. -/
def Unbroken (first : Bytes) (rest fed : List Bytes) : Prop :=
  ∃ pre stretch post, fed = pre ++ first :: (stretch ++ post) ∧ first ∉ stretch ∧
    ∀ segment ∈ rest, segment ∈ stretch

/-- One more segment either ends a stretch in which all the others came, or adds nothing. -/
theorem unbroken_concat (first : Bytes) (rest fed : List Bytes) (segment : Bytes) :
    Unbroken first rest (fed ++ [segment]) ↔ Unbroken first rest fed ∨
      ∃ stretch, Since (· = first) (fed ++ [segment]) first stretch ∧
        ∀ segment ∈ rest, segment ∈ stretch := by
  constructor
  · rintro ⟨pre, stretch, post, heq, hquiet, hall⟩
    rcases List.eq_nil_or_concat post with rfl | ⟨post, last, rfl⟩
    · refine Or.inr ⟨stretch, ⟨⟨pre, ?_⟩, rfl, fun y hy h => hquiet (h ▸ hy)⟩, hall⟩
      rw [heq, List.append_nil]
    · refine Or.inl ⟨pre, stretch, post, ?_, hquiet, hall⟩
      have hconcat : fed ++ [segment] = (pre ++ first :: (stretch ++ post)) ++ [last] := by
        rw [heq]
        simp
      exact (List.append_inj' hconcat rfl).1
  · rintro (⟨pre, stretch, post, rfl, hquiet, hall⟩ | ⟨stretch, ⟨⟨pre, hpre⟩, -, hquiet⟩, hall⟩)
    · exact ⟨pre, stretch, post ++ [segment], by simp, hquiet, hall⟩
    · exact ⟨pre, stretch, [], by rw [← hpre, List.append_nil], fun h => hquiet _ h rfl, hall⟩

/-- Where an assembler is that has been fed segments of one datagram only. -/
inductive Progress (datagram : Bytes) (sessionId : UInt8) (first : Bytes) (fed : List Bytes)
    (a : Assembler) : Prop
  /-- No FIRST_SEGMENT has come. -/
  | waiting (idle : a.active = false) (none : first ∉ fed)
  /-- The datagram has come out since the last FIRST_SEGMENT. -/
  | finished {stretch : List Bytes} (idle : a.active = false)
    (since : Since (· = first) fed first stretch) (covers : Covers datagram sessionId stretch)
  /-- A piece has been missing since the last FIRST_SEGMENT. -/
  | filling {stretch : List Bytes} (since : Since (· = first) fed first stretch)
    (missing : ¬ Covers datagram sessionId stretch)
    (filling : Filling datagram sessionId stretch a)

/-- In an unbroken feed the FIRST_SEGMENT is among the segments. -/
theorem Unbroken.mem {fed : List Bytes} (h : Unbroken first rest fed) : first ∈ fed := by
  obtain ⟨pre, stretch, post, rfl, -, -⟩ := h
  exact List.mem_append_right _ List.mem_cons_self

/-- If all the others have been fed since the last FIRST_SEGMENT, the datagram is unbroken. -/
theorem unbroken_of_since {fed stretch : List Bytes} (h : Since (· = first) fed first stretch)
    (hall : ∀ segment ∈ rest, segment ∈ stretch) : Unbroken first rest fed := by
  obtain ⟨⟨pre, hpre⟩, -, hquiet⟩ := h
  exact ⟨pre, stretch, [], by rw [← hpre, List.append_nil], fun h => hquiet _ h rfl, hall⟩

/-- A segment that leaves something missing since the last FIRST_SEGMENT adds nothing. -/
theorem unbroken_concat_of_missing {fed stretch : List Bytes} {segment : Bytes}
    (h : Since (· = first) (fed ++ [segment]) first stretch)
    (hmissing : ¬ ∀ segment ∈ rest, segment ∈ stretch) :
    Unbroken first rest (fed ++ [segment]) ↔ Unbroken first rest fed := by
  rw [unbroken_concat]
  refine or_iff_left ?_
  rintro ⟨stretch', hsince, hall⟩
  obtain ⟨-, rfl⟩ := h.unique hsince
  exact hmissing hall

/-- What became of the datagram, as progress: it came out now or before exactly if all the other
segments have come behind some copy of the FIRST_SEGMENT. -/
theorem Outcome.progress (hpos : 0 < datagram.length)
    (hsplit : splitOutbound datagram sessionId = first :: rest) {fed stretch : List Bytes}
    {segment : Bytes} {result : Except Fault (Assembler × Option Bytes)}
    (h : Outcome datagram sessionId stretch result)
    (hsince : Since (· = first) (fed ++ [segment]) first stretch) :
    ∃ a' returned, result = .ok (a', returned) ∧
      Progress datagram sessionId first (fed ++ [segment]) a' ∧
      (Unbroken first rest (fed ++ [segment]) ↔
        Unbroken first rest fed ∨ returned = some datagram) := by
  cases h with
  | @whole a' hcovers hidle =>
    refine ⟨a', some datagram, rfl, .finished hidle hsince hcovers, ?_⟩
    have hall := (covers_iff_mem hpos hsplit stretch).mp hcovers
    exact ⟨fun _ => Or.inr rfl, fun _ => unbroken_of_since hsince hall⟩
  | @more a' hmissing hfilling =>
    refine ⟨a', none, rfl, .filling hsince hmissing hfilling, ?_⟩
    rw [covers_iff_mem hpos hsplit] at hmissing
    rw [unbroken_concat_of_missing hsince hmissing]
    simp

/-- One more segment of the datagram is taken in without fault, and returns the datagram exactly
when it ends a stretch in which all the others came. -/
theorem Progress.feedSegment (hpos : 0 < datagram.length) (hle : datagram.length ≤ 2047)
    (hsplit : splitOutbound datagram sessionId = first :: rest) {fed : List Bytes}
    (h : Progress datagram sessionId first fed a) {segment : Bytes}
    (hmem : segment ∈ first :: rest) :
    ∃ a' returned, a.feedSegment segment = .ok (a', returned) ∧
      Progress datagram sessionId first (fed ++ [segment]) a' ∧
      (Unbroken first rest (fed ++ [segment]) ↔
        Unbroken first rest fed ∨ returned = some datagram) := by
  rcases List.mem_cons.mp hmem with rfl | hrest
  · -- The datagram starts over, whatever the progress was.
    have houtcome := outcome_first hpos hle sessionId a
    rw [← (split_cases hpos hsplit).1] at houtcome
    exact houtcome.progress hpos hsplit (Since.fresh fed rfl)
  -- It is one of the other segments, which is not the first one.
  have hne : ¬ segment = first := by
    rintro rfl
    exact first_notMem_rest hpos hle hsplit hrest
  obtain ⟨j, -, hlt, rfl⟩ := ((split_cases hpos hsplit).2 segment).mp hrest
  -- Without a first segment the assembler waits on and returns nothing.
  cases h with
  | waiting hidle hnone =>
    have hnone' : first ∉ fed ++ [pieceSegment datagram sessionId j] := by
      rw [List.mem_append, List.mem_singleton]
      rintro (hmem | rfl)
      · exact hnone hmem
      · exact hne rfl
    refine ⟨a, none, feedSegment_idle hidle hle sessionId _, .waiting hidle hnone', ?_⟩
    have hbefore : ¬ Unbroken first rest fed := fun h => hnone h.mem
    have hafter : ¬ Unbroken first rest (fed ++ [pieceSegment datagram sessionId j]) :=
      fun h => hnone' h.mem
    simp [hbefore, hafter]
  -- What comes behind a completed datagram is dropped.
  | @finished stretch hidle hsince hcovers =>
    have hsince' := hsince.concat hne
    have hcovers' : Covers datagram sessionId (stretch ++ [pieceSegment datagram sessionId j]) :=
      fun i hi hlt => List.mem_append_left _ (hcovers i hi hlt)
    refine ⟨a, none, feedSegment_idle hidle hle sessionId _,
      .finished hidle hsince' hcovers', ?_⟩
    have hall := covers_iff_mem hpos hsplit
    have hbefore := unbroken_of_since hsince ((hall _).mp hcovers)
    have hafter := unbroken_of_since hsince' ((hall _).mp hcovers')
    simp [hbefore, hafter]
  -- The stretch since the first segment grows by this one.
  | @filling stretch hsince hmissing hfilling =>
    exact (hfilling.outcome hle hlt).progress hpos hsplit (hsince.concat hne)

/-- Segments of one datagram, fed to a fresh assembler in any order and number, are taken in without
fault, and the datagram is returned exactly if they are unbroken. -/
theorem feedAll_progress (hpos : 0 < datagram.length) (hle : datagram.length ≤ 2047)
    (hsplit : splitOutbound datagram sessionId = first :: rest) {fed : List Bytes}
    (hmem : ∀ segment ∈ fed, segment ∈ first :: rest) :
    ∃ a' returned, ({} : Assembler).feedAll fed = .ok (a', returned) ∧
      Progress datagram sessionId first fed a' ∧
      (some datagram ∈ returned ↔ Unbroken first rest fed) := by
  induction fed using List.reverseRecOn with
  | nil =>
    refine ⟨{}, [], rfl, .waiting rfl (by simp), ?_⟩
    simp [Unbroken]
  | append_singleton fed segment ih =>
    obtain ⟨a', returned, hfed, hprogress, hreturned⟩ :=
      ih fun s hs => hmem s (List.mem_append_left _ hs)
    obtain ⟨a'', last, hlast, hprogress', hunbroken⟩ :=
      hprogress.feedSegment hpos hle hsplit (hmem segment (by simp))
    refine ⟨a'', returned ++ [last], Assembler.feedAll_concat hfed hlast, hprogress', ?_⟩
    rw [List.mem_append, List.mem_singleton, hreturned, hunbroken, @eq_comm _ (some datagram)]

/-- The segments of a datagram, in any order and any number of times: a fresh assembler returns the
datagram exactly if all the others come behind some copy of the FIRST_SEGMENT, with no other copy in
between. -/
theorem returns_iff (hpos : 0 < datagram.length) (hle : datagram.length ≤ 2047)
    (sessionId : UInt8) (hsplit : splitOutbound datagram sessionId = first :: rest)
    {fed : List Bytes} (hmem : ∀ segment ∈ fed, segment ∈ first :: rest) :
    (∃ a' returned, ({} : Assembler).feedAll fed = .ok (a', returned) ∧
        some datagram ∈ returned) ↔
      ∃ pre stretch post, fed = pre ++ first :: (stretch ++ post) ∧ first ∉ stretch ∧
        ∀ segment ∈ rest, segment ∈ stretch := by
  obtain ⟨a', returned, hfed, -, hreturned⟩ := feedAll_progress hpos hle hsplit hmem
  rw [← Unbroken, ← hreturned]
  constructor
  · rintro ⟨a'', returned', hfed', hmem'⟩
    rw [hfed] at hfed'
    obtain ⟨-, rfl⟩ := Prod.mk.inj (Except.ok.inj hfed')
    exact hmem'
  · exact fun h => ⟨a', returned, hfed, h⟩

/-- The second copy of the FIRST_SEGMENT does no harm behind the datagram. -/
theorem returns_fortyBytes :
    ∃ a' returned, ({} : Assembler).feedAll [firstSegmentOf fortyBytes 1,
        pieceSegment fortyBytes 1 1, firstSegmentOf fortyBytes 1] = .ok (a', returned) ∧
      some fortyBytes ∈ returned :=
  (returns_iff (by decide) (by decide) 1 splitOutbound_fortyBytes (by simp)).mpr
    ⟨[], [pieceSegment fortyBytes 1 1], [firstSegmentOf fortyBytes 1], rfl, by decide +kernel,
      by simp⟩

/-- The SUBSEQUENT_SEGMENT overtakes the FIRST_SEGMENT and is dropped: both were fed, and the
datagram does not come out. -/
theorem overtaken_fortyBytes :
    ¬ ∀ (datagram : Bytes) (sessionId : UInt8) (fed : List Bytes), 0 < datagram.length →
      datagram.length ≤ 2047 →
      (∀ segment ∈ fed, segment ∈ splitOutbound datagram sessionId) →
      (∀ segment ∈ splitOutbound datagram sessionId, segment ∈ fed) →
      ∃ a' returned, ({} : Assembler).feedAll fed = .ok (a', returned) ∧
        some datagram ∈ returned := by
  intro h
  obtain ⟨a', returned, hfed, hmem⟩ :=
    h fortyBytes 1 [pieceSegment fortyBytes 1 1, firstSegmentOf fortyBytes 1] (by decide)
      (by decide) (by simp [splitOutbound_fortyBytes]) (by simp [splitOutbound_fortyBytes])
  have hnone : (({} : Assembler).feedAll [pieceSegment fortyBytes 1 1,
      firstSegmentOf fortyBytes 1]).map Prod.snd = .ok [none, none] := by decide +kernel
  rw [hfed] at hnone
  obtain rfl : returned = [none, none] := Except.ok.inj hnone
  simp at hmem

end Sequences

end Zwaved.TransportService
