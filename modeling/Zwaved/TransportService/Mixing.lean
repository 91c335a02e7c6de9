import Zwaved.TransportService.Invariant

/-!
# Two datagrams in one

Every segment declares the session and the size of its datagram. `handleSubsequent` compares the
session with the one in flight, but not the size, so a segment of another datagram that has the same
four bits of session goes in. And a FIRST_SEGMENT that `handleFirst` refuses has by then assigned
its session and size, so the segments of a datagram that never started go into the one in flight.

`unmixed_of_keepsHeader` says that these are the only two ways: where neither happens, every byte of
a datagram that comes out was carried by a segment that declares the session and the size of the
FIRST_SEGMENT that started it.
-/

namespace Zwaved.TransportService

open Reactive

namespace Assembler

variable {a : Assembler} {segment : Bytes}

/-- Only a SUBSEQUENT_SEGMENT of the session in flight goes into a datagram in flight. -/
theorem feedSegment_foreign (hfirst : command segment ≠ firstSegment)
    (h : command segment = subsequentSegment → declaredSession segment ≠ a.sessionId) :
    a.feedSegment segment = .ok (a, none) := by
  unfold feedSegment
  by_cases hfcs : FcsValid segment
  swap
  · rw [if_pos hfcs]
  rw [if_neg (not_not.mpr hfcs)]
  show (if command segment = firstSegment then _
    else if command segment = subsequentSegment then _ else _) = _
  rw [if_neg hfirst]
  by_cases hcommand : command segment = subsequentSegment
  · rw [if_pos hcommand]
    unfold handleSubsequent
    rw [if_pos (h hcommand), ite_self]
  · rw [if_neg hcommand]

/-- A FIRST_SEGMENT with a payload is taken up or refused. -/
theorem command_ne_of_placement {offset : ℕ} {payload : Bytes} (hfcs : FcsValid segment)
    (hstarts : ¬ StartsDatagram segment) (hrefused : ¬ RefusedFirst segment)
    (h : placement segment = some (offset, payload)) : command segment ≠ firstSegment := by
  intro hfirst
  unfold placement at h
  rw [if_pos hfirst] at h
  cases hstart : payloadStart segment (segment.length - fcsLen) 4 with
  | none =>
    rw [hstart] at h
    cases h
  | some start =>
    have hlen : 4 ≤ segment.length - fcsLen := by
      unfold payloadStart at hstart
      split_ifs at hstart
      · omega
      · omega
    by_cases hsize : declaredSize segment = 0
    · exact hrefused ⟨hfcs, hfirst, hlen, Or.inl hsize⟩
    · exact hstarts ⟨hfcs, hfirst, hlen, hsize, by simp [hstart]⟩

end Assembler

/-- The segment declares the session and the size that `first` declares. -/
def SameDatagram (first segment : Bytes) : Prop :=
  Assembler.declaredSession segment = Assembler.declaredSession first ∧
    Assembler.declaredSize segment = Assembler.declaredSize first

/-- The call feeds a segment of the datagram of `first` that carries byte `b` of position `pos`. -/
def FeedsOf (first : Bytes) (pos : ℕ) (b : UInt8) (t : Taken (Except Fault Assembler) Op) : Prop :=
  ∃ segment, t.input = .feed segment ∧ Assembler.Carries segment pos b ∧ SameDatagram first segment

/-- Every byte of a datagram was carried by a segment with the session and the size of the
FIRST_SEGMENT that started the datagram. -/
def OfOneDatagram (calls : List (Taken (Except Fault Assembler) Op)) (datagram : Bytes) : Prop :=
  ∃ start rest first, Since Starts calls start rest ∧ start.input = .feed first ∧
    ∀ pos b, datagram[pos]? = some b → ∃ t ∈ start :: rest, FeedsOf first pos b t

/-- A run in which no datagram that comes out mixes two datagrams. -/
def Unmixed (ops : List Op) : Prop :=
  ∀ pre op, pre ++ [op] <+: ops → ∀ datagram ∈ (step (after pre) op).2,
    OfOneDatagram (history (pre ++ [op])) datagram

/-- While a datagram is in flight, the call feeds no refused FIRST_SEGMENT of another size or
session, and no SUBSEQUENT_SEGMENT of the same session and another size. -/
def KeepsHeader (a : Assembler) : Op → Prop
  | .feed segment => a.active = true →
      (Assembler.RefusedFirst segment → Assembler.declaredSize segment = a.datagramSize ∧
        Assembler.declaredSession segment = a.sessionId) ∧
      (Assembler.FcsValid segment → Assembler.command segment = subsequentSegment →
        Assembler.declaredSession segment = a.sessionId →
        Assembler.declaredSize segment = a.datagramSize)
  | .reset => True

/-- A datagram in flight has the session and the size of its FIRST_SEGMENT, and the positions it has
received were carried by segments that declare the same. -/
def Headed (calls : List (Taken (Except Fault Assembler) Op)) (a : Assembler) : Prop :=
  a.active = true → ∃ start rest first, Since Starts calls start rest ∧ start.input = .feed first ∧
    a.sessionId = Assembler.declaredSession first ∧
    a.datagramSize = Assembler.declaredSize first ∧
    ∀ pos b, a.received[pos]? = some true → a.buffer[pos]? = some b →
      ∃ t ∈ start :: rest, FeedsOf first pos b t

section Steps

variable {calls : List (Taken (Except Fault Assembler) Op)} {a a' : Assembler} {segment : Bytes}

/-- A call that starts no datagram keeps the header, if it keeps the session and the size and every
position it fills has a byte of the segment. -/
theorem Headed.concat {t : Taken (Except Fault Assembler) Op} (h : Headed calls a)
    (ht : ¬ Starts t) (hact : a'.active = true → a.active = true)
    (hsession : a'.active = true → a'.sessionId = a.sessionId)
    (hsize : a'.active = true → a'.datagramSize = a.datagramSize)
    (hkeep : ∀ pos b, a'.received[pos]? = some true → a'.buffer[pos]? = some b →
      (a.received[pos]? = some true ∧ a.buffer[pos]? = some b) ∨
        ∃ segment, t.input = .feed segment ∧ Assembler.Carries segment pos b ∧
          Assembler.declaredSession segment = a.sessionId ∧
          Assembler.declaredSize segment = a.datagramSize) :
    Headed (calls ++ [t]) a' := by
  intro ha'
  -- The FIRST_SEGMENT that the assembler started with is still the last one.
  obtain ⟨start, rest, first, hsince, hstart, hsession', hsize', hfed⟩ := h (hact ha')
  refine ⟨start, rest ++ [t], first, hsince.concat ht, hstart, (hsession ha').trans hsession',
    (hsize ha').trans hsize', fun pos b hr hb => ?_⟩
  -- A byte that was there before came in a segment of that datagram, and a new one came in this
  -- segment.
  rcases hkeep pos b hr hb with ⟨hr', hb'⟩ | ⟨segment, hinput, hcarries, hses, hsz⟩
  · obtain ⟨u, hu, hfeeds⟩ := hfed pos b hr' hb'
    refine ⟨u, ?_, hfeeds⟩
    rw [← List.cons_append]
    exact List.mem_append_left _ hu
  · refine ⟨t, by simp, segment, hinput, hcarries, ?_, ?_⟩
    · rw [hses, hsession']
    · rw [hsz, hsize']

/-- A call that starts no datagram and leaves the assembler keeps the header of the last one that
did. -/
theorem Headed.same {t : Taken (Except Fault Assembler) Op} (h : Headed calls a)
    (ht : ¬ Starts t) : Headed (calls ++ [t]) a :=
  h.concat ht id (fun _ => rfl) (fun _ => rfl) fun _ _ hr hb => Or.inl ⟨hr, hb⟩

/-- Placing a payload whose bytes are tracked: no fault, the invariant, the header kept, and what
comes out is of one datagram. -/
theorem place_headed (hshaped : a.Shaped) (offset : ℕ) (payload : Bytes) (hact : a.active = true)
    (hheaded : ∀ p, Assembler.placeFrom a offset payload = .ok p →
      Assembler.Placed a p offset payload → p.active = a.active → Headed calls p) :
    ∃ a' datagram, a.place offset payload = .ok (a', datagram) ∧ a'.Inv ∧ Headed calls a' ∧
      ∀ d ∈ datagram.toList, OfOneDatagram calls d := by
  refine Assembler.place_keeps hshaped offset payload
    (fun p heq hp hplaced => hheaded p heq hplaced hp)
    (fun p _ h => absurd h (by simp [Assembler.reset])) fun p hp hheaded hreceived => ?_
  obtain ⟨start, rest, first, hsince, hstart, -, -, hfed⟩ := hheaded (hp.trans hact)
  exact ⟨start, rest, first, hsince, hstart, fun pos b hb => hfed pos b (hreceived pos b hb) hb⟩

/-- One call that keeps the header of the datagram in flight. -/
theorem step_unmixed {op : Op} (hinv : a.Inv) (hheaded : Headed calls a)
    (hkeeps : KeepsHeader a op) :
    ∃ a', (step (.ok a) op).1 = .ok a' ∧ a'.Inv ∧ Headed (calls ++ [⟨.ok a, op⟩]) a' ∧
      ∀ d ∈ (step (.ok a) op).2, OfOneDatagram (calls ++ [⟨.ok a, op⟩]) d := by
  cases op with
  | reset =>
    exact ⟨a.reset, rfl, fun h => absurd h (by simp [Assembler.reset]),
      fun h => absurd h (by simp [Assembler.reset]), by simp [step]⟩
  | feed segment =>
    have hnotStarts : ¬ Assembler.StartsDatagram segment →
        ¬ Starts (⟨.ok a, .feed segment⟩ : Taken (Except Fault Assembler) Op) := by
      rintro hs ⟨seg, heq, hseg⟩
      exact hs (by rw [Op.feed.inj heq]; exact hseg)
    have hignored : ∀ t : Taken (Except Fault Assembler) Op, ¬ Starts t →
        ∃ a', Except.ok (ε := Fault) a = .ok a' ∧ a'.Inv ∧ Headed (calls ++ [t]) a' ∧
          ∀ d ∈ (none : Option Bytes).toList, OfOneDatagram (calls ++ [t]) d :=
      fun t ht => ⟨a, rfl, hinv, hheaded.same ht, by simp⟩
    have hfed := a.feedSegment_fed segment
    generalize hresult : a.feedSegment segment = result at hfed
    simp only [step, hresult]
    cases hfed with
    | ignored hs _ => exact hignored _ (hnotStarts hs)
    | refused hs hrefused =>
      -- The size and the session that the refused segment assigns are there already.
      refine ⟨_, rfl, fun hact => ?_, hheaded.concat (hnotStarts hs) id
        (fun hact => ((hkeeps hact).1 hrefused).2) (fun hact => ((hkeeps hact).1 hrefused).1)
        fun _ _ hr hb => Or.inl ⟨hr, hb⟩, by simp⟩
      have hsize := ((hkeeps hact).1 hrefused).1
      obtain ⟨hshaped, hlt⟩ := hinv hact
      exact ⟨⟨hshaped.buffer.trans hsize.symm, hshaped.received.trans hsize.symm, hshaped.count⟩,
        by simpa [hsize] using hlt⟩
    | @started payload hs hpl =>
      have hstarted : ∀ p, (Assembler.started segment).placeFrom 0 payload = .ok p →
          Assembler.Placed (Assembler.started segment) p 0 payload →
          p.active = (Assembler.started segment).active →
          Headed (calls ++ [⟨.ok a, .feed segment⟩]) p := by
        intro p heq hplaced _ _
        refine ⟨_, [], segment, Since.fresh calls ⟨segment, rfl, hs⟩, rfl,
          Assembler.sessionId_placeFrom payload heq, hplaced.size, fun pos b hr hb => ?_⟩
        rcases hplaced.filled pos b hr hb with ⟨hr', -⟩ | ⟨hle, hb'⟩
        · have hfree := List.eq_of_mem_replicate (List.mem_of_getElem? hr')
          exact absurd hfree (by decide)
        · exact ⟨_, List.mem_cons_self, segment, rfl, ⟨hs.1, 0, payload, hpl, hle, hb'⟩, rfl, rfl⟩
      obtain ⟨a', d, hplace, h⟩ :=
        place_headed (Assembler.started_shaped segment) 0 payload rfl hstarted
      simp only [hplace]
      exact ⟨a', rfl, h⟩
    | @placed offset payload hfcs hs hrefused hact hpl =>
      have hfirst := Assembler.command_ne_of_placement hfcs hs hrefused hpl
      by_cases hforeign : Assembler.command segment = subsequentSegment →
          Assembler.declaredSession segment ≠ a.sessionId
      · -- The segment is not placed at all.
        have hsame := Assembler.feedSegment_foreign hfirst hforeign
        rw [hresult] at hsame
        rw [hsame]
        exact hignored _ (hnotStarts hs)
      · obtain ⟨hsubsequent, hsession⟩ := Classical.not_imp.mp hforeign
        have hsession : Assembler.declaredSession segment = a.sessionId := not_not.mp hsession
        have hsize := (hkeeps hact).2 hfcs hsubsequent hsession
        have hkept : ∀ p, a.placeFrom offset payload = .ok p →
            Assembler.Placed a p offset payload → p.active = a.active →
            Headed (calls ++ [⟨.ok a, .feed segment⟩]) p := by
          intro p heq hplaced hp
          refine hheaded.concat (hnotStarts hs) (fun h => hp ▸ h)
            (fun _ => Assembler.sessionId_placeFrom payload heq) (fun _ => hplaced.size)
            fun pos b hr hb => ?_
          exact (hplaced.filled pos b hr hb).imp_right fun h =>
            ⟨segment, rfl, ⟨hfcs, offset, payload, hpl, h.1, h.2⟩, hsession, hsize⟩
        obtain ⟨a', d, hplace, h⟩ := place_headed (hinv hact).1 offset payload hact hkept
        simp only [hplace]
        exact ⟨a', rfl, h⟩

end Steps

/-- A run whose calls all keep the header of the datagram in flight. -/
theorem after_headed (ops : List Op)
    (h : ∀ pre op, pre ++ [op] <+: ops → ∀ a, after pre = .ok a → KeepsHeader a op) :
    ∃ a, after ops = .ok a ∧ a.Inv ∧ Headed (history ops) a := by
  induction ops using List.reverseRecOn with
  | nil => exact ⟨{}, rfl, by simp [Assembler.Inv], by simp [Headed]⟩
  | append_singleton ops op ih =>
    obtain ⟨a, ha, hinv, hheaded⟩ := ih fun pre op' hpre =>
      h pre op' (hpre.trans (List.prefix_append _ _))
    obtain ⟨a', ha', hinv', hheaded', -⟩ :=
      step_unmixed hinv hheaded (h ops op List.prefix_rfl a ha)
    have hexec : after (ops ++ [op]) = (step (.ok a) op).1 := by
      rw [after, exec_concat, ← after, ha]
    have hcalls : history (ops ++ [op]) = history ops ++ [⟨.ok a, op⟩] := by
      rw [history, trace_concat, ← history, ← after, ha]
    rw [hexec, hcalls]
    exact ⟨a', ha', hinv', hheaded'⟩

/-- A run whose calls all keep the header of the datagram in flight does not fault and mixes no two
datagrams. -/
theorem unmixed_of_keepsHeader (ops : List Op)
    (h : ∀ pre op, pre ++ [op] <+: ops → ∀ a, after pre = .ok a → KeepsHeader a op) :
    (∃ a, after ops = .ok a) ∧ Unmixed ops := by
  have hpre : ∀ pre, pre <+: ops → ∃ a, after pre = .ok a ∧ a.Inv ∧ Headed (history pre) a :=
    fun pre hpre => after_headed pre fun p op hp => h p op (hp.trans hpre)
  constructor
  · obtain ⟨a, ha, -, -⟩ := hpre ops List.prefix_rfl
    exact ⟨a, ha⟩
  · intro pre op hp d hd
    obtain ⟨a, ha, hinv, hheaded⟩ := hpre pre ((List.prefix_append _ _).trans hp)
    obtain ⟨-, -, -, -, hout⟩ := step_unmixed hinv hheaded (h pre op hp a ha)
    rw [history, trace_concat, ← history, ← after, ha]
    exact hout d (by rw [← ha]; exact hd)

/-- A datagram of two bytes in two segments. -/
def twoSegments : List Op :=
  [.feed [0x55, 0xC0, 0x02, 0x10, 0x25, 0x6D, 0xDB],
    .feed [0x55, 0xE0, 0x02, 0x10, 0x01, 0x01, 0xB4, 0xBC]]

/-- The two segments of one datagram are taken in and mix nothing. -/
theorem twoSegments_unmixed :
    (∃ a, after twoSegments = .ok a) ∧ Unmixed twoSegments := by
  refine unmixed_of_keepsHeader twoSegments fun pre op hpre a ha => ?_
  have hcases : (pre = [] ∧ op = .feed [0x55, 0xC0, 0x02, 0x10, 0x25, 0x6D, 0xDB]) ∨
      (pre = twoSegments.take 1 ∧ op = .feed [0x55, 0xE0, 0x02, 0x10, 0x01, 0x01, 0xB4, 0xBC]) := by
    rcases pre with _ | ⟨first, _ | ⟨second, pre⟩⟩
    · simp only [List.nil_append, twoSegments, List.cons_prefix_cons, List.nil_prefix,
        and_true] at hpre
      exact Or.inl ⟨rfl, hpre⟩
    · simp only [List.cons_append, List.nil_append, twoSegments, List.cons_prefix_cons,
        List.nil_prefix, and_true] at hpre
      exact Or.inr ⟨by rw [hpre.1]; rfl, hpre.2⟩
    · simp [twoSegments] at hpre
  rcases hcases with ⟨rfl, rfl⟩ | ⟨rfl, rfl⟩
  · obtain rfl := Except.ok.inj ha
    exact fun hact => absurd hact (by decide)
  · have hafter : after (twoSegments.take 1) = .ok
      { active := true, sessionId := 1, datagramSize := 2, receivedCount := 1,
        buffer := [0x25, 0], received := [true, false] } := by decide +kernel
    obtain rfl := Except.ok.inj (hafter.symm.trans ha)
    exact fun _ => ⟨fun hrefused => absurd hrefused.2.1 (by decide), fun _ _ _ => by decide⟩

/-- A datagram mixes two if, whichever FIRST_SEGMENT started it, no segment of that datagram carried
one of its bytes. -/
theorem not_ofOneDatagram {calls : List (Taken (Except Fault Assembler) Op)} {datagram : Bytes}
    {b : UInt8} (pos : ℕ) (hb : datagram[pos]? = some b)
    (h : ∀ first segment, Assembler.StartsDatagram first →
      Op.feed first ∈ calls.map Taken.input → Op.feed segment ∈ calls.map Taken.input →
      SameDatagram first segment → ¬ Assembler.Carries segment pos b) :
    ¬ OfOneDatagram calls datagram := by
  rintro ⟨start, rest, first, hsince, hstart, hfed⟩
  have hmem : ∀ t ∈ start :: rest, t.input ∈ calls.map Taken.input :=
    fun t ht => List.mem_map_of_mem (hsince.suffix.subset ht)
  obtain ⟨t, ht, segment, hinput, hcarries, hsame⟩ := hfed pos b hb
  obtain ⟨first', hinput', hstarts⟩ := hsince.opens
  obtain rfl : first' = first := Op.feed.inj (hinput'.symm.trans hstart)
  exact h first' segment hstarts (hstart ▸ hmem start List.mem_cons_self) (hinput ▸ hmem t ht)
    hsame hcarries

/-- One byte of a datagram of two, and the second byte of a datagram of five in the same session. -/
def mixedSizes : List Op :=
  [.feed [0x55, 0xC0, 0x02, 0x00, 0x25, 0x6E, 0xA8],
    .feed [0x55, 0xE0, 0x05, 0x00, 0x01, 0x01, 0xA6, 0xF2]]

/-- The second segment of `mixedSizes` completes the datagram of the first. -/
theorem mixedSizes_mixed :
    (step (after (mixedSizes.take 1)) (.feed [0x55, 0xE0, 0x05, 0x00, 0x01, 0x01, 0xA6, 0xF2])).2 =
        [[0x25, 0x01]] ∧
      ¬ ∀ ops, Unmixed ops := by
  have hout : (step (after (mixedSizes.take 1))
      (.feed [0x55, 0xE0, 0x05, 0x00, 0x01, 0x01, 0xA6, 0xF2])).2 = [[0x25, 0x01]] := by
    decide +kernel
  refine ⟨hout, fun h => ?_⟩
  -- The datagram that is returned would have to be one datagram's, from its first segment on.
  have hone := h mixedSizes _ _ List.prefix_rfl [0x25, 0x01] (by rw [hout]; simp)
  refine not_ofOneDatagram 1 rfl ?_ hone
  intro first segment hstarts hfirst hsegment hsame
  simp only [mixedSizes, List.take, List.cons_append, List.nil_append, history, trace,
    List.map_cons, List.map_nil, List.mem_cons, Op.feed.injEq, List.not_mem_nil, or_false]
    at hfirst hsegment
  rcases hfirst with rfl | rfl
  · rcases hsegment with rfl | rfl
    · -- The FIRST_SEGMENT carries position zero only.
      rintro ⟨-, offset, payload, hpl, -, hb⟩
      have hcarried : Assembler.placement [0x55, 0xC0, 0x02, 0x00, 0x25, 0x6E, 0xA8] =
          some (0, [0x25]) := by decide +kernel
      rw [hcarried] at hpl
      obtain ⟨rfl, rfl⟩ := Prod.mk.inj (Option.some.inj hpl)
      exact absurd hb (by decide)
    · exact absurd hsame.2 (by decide)
  · exact absurd hstarts.2.1 (by decide)

end Zwaved.TransportService
