import Zwaved.Reactive.Run
import Zwaved.S2.SpanManager

/-!
# Two SPAN managers in lockstep

Two managers with mirrored configurations exchange nonce round trips and messages in any order and
either direction. What holds between the two halves is `InStep`: they have the same SPAN, or none
on both sides, and an REI that one side has accepted is the one that the other still keeps. A round
trip renews the second part, and a message draws the same nonce on both sides: either from the SPAN
they share, or from the one that the message's own extension announces.
-/

namespace Zwaved.S2

open Reactive

variable (ssl : OpenSsl)

/-- The same link, seen from the other end. -/
structure Mirrored (c d : PeerConfig) : Prop where
  /-- The class keys are the same. -/
  classKey : d.classKey = c.classKey
  /-- The personalization strings are the same. -/
  personalization : d.personalization = c.personalization
  /-- The home ids are the same. -/
  homeId : d.homeId = c.homeId
  /-- The other end is our peer. -/
  ourNodeId : d.ourNodeId = c.peerNodeId
  /-- We are the other end's peer. -/
  peerNodeId : d.peerNodeId = c.ourNodeId

/-- Being mirrored does not depend on the side. -/
theorem Mirrored.symm {c d : PeerConfig} (h : Mirrored c d) : Mirrored d c :=
  ⟨h.classKey.symm, h.personalization.symm, h.homeId.symm, h.peerNodeId.symm, h.ourNodeId.symm⟩

/-- The two halves of a link in lockstep. -/
structure InStep (p q : Peer) : Prop where
  /-- The configurations mirror each other. -/
  config : Mirrored p.config q.config
  /-- The SPANs are equal. -/
  span : p.span = q.span
  /-- The REI that `p` accepted is the one that `q` keeps. -/
  peerRei : ∀ rei, p.peerRei = some rei → q.ourRei = some rei
  /-- The REI that `q` accepted is the one that `p` keeps. -/
  ourRei : ∀ rei, q.peerRei = some rei → p.ourRei = some rei

/-- Being in step does not depend on the side. -/
theorem InStep.symm {p q : Peer} (h : InStep p q) : InStep q p :=
  ⟨h.config.symm, h.span.symm, h.ourRei, h.peerRei⟩

/-- A half that starts with no SPAN, and has not accepted an REI yet. -/
structure Fresh (p : Peer) : Prop where
  /-- No SPAN. -/
  span : p.span = none
  /-- No REI of the peer's. -/
  peerRei : p.peerRei = none

/-- Two fresh halves are in lockstep. -/
theorem InStep.of_fresh {p q : Peer} (hconfig : Mirrored p.config q.config) (hp : Fresh p)
    (hq : Fresh q) : InStep p q where
  config := hconfig
  span := hp.span.trans hq.span.symm
  peerRei rei h := by rw [hp.peerRei] at h; cases h
  ourRei rei h := by rw [hq.peerRei] at h; cases h

/-- A round trip leaves the halves in lockstep: `q` keeps the REI that it reports, and `p` accepts
it. -/
theorem InStep.roundTrip {p q : Peer} (h : InStep p q) (rei : EntropyInput) :
    InStep (p.nonceGet.2.acceptNonceReport (q.nonceReport rei)) (q.respondToNonceGet rei).2 where
  config := h.config
  span := h.span
  peerRei _ hrei := hrei
  ourRei := h.ourRei

/-! ## A message -/

/-- A frame announces extensions exactly when it was made with some. -/
theorem announcesExtensions_encrypt (inner : Bytes) (context : Encapsulation.Context)
    (classKey : Key) (nonce : CcmNonce) (extensions : Bytes) :
    Peer.AnnouncesExtensions (Encapsulation.encrypt ssl inner context classKey nonce extensions) ↔
      extensions ≠ [] := by
  obtain ⟨cipher, heq⟩ :=
    Encapsulation.encrypt_eq ssl inner context classKey nonce extensions
  rw [heq]
  cases extensions with
  | nil => simp [Peer.AnnouncesExtensions, Bytes.byte]
  | cons =>
    have hflag : Encapsulation.propExt &&& 0x01 ≠ 0 := by decide
    have hclass : Encapsulation.commandClass = NonceSync.commandClass := rfl
    simp [Peer.AnnouncesExtensions, Bytes.byte, hclass, hflag]

/-- A frame with a SPAN extension announces the SPAN made of its SEI and the REI we issued. -/
theorem announcedSpan_encrypt {q : Peer} {rei : EntropyInput} (h : q.ourRei = some rei)
    (inner : Bytes) (context : Encapsulation.Context) (classKey : Key) (nonce : CcmNonce)
    (sei : EntropyInput) :
    q.announcedSpan ssl (Encapsulation.encrypt ssl inner context classKey nonce
        (NonceSync.encodeSpanExtension sei)) =
      some (Span.instantiate ssl sei rei q.config.personalization) := by
  have hannounces := announcesExtensions_encrypt ssl inner context classKey nonce
    (NonceSync.encodeSpanExtension sei)
  have hnonempty : NonceSync.encodeSpanExtension sei ≠ [] := by
    simp [NonceSync.encodeSpanExtension]
  obtain ⟨cipher, heq⟩ := Encapsulation.encrypt_eq ssl inner context classKey nonce
    (NonceSync.encodeSpanExtension sei)
  have hfind : NonceSync.findSpanExtension ((Encapsulation.encrypt ssl inner context classKey nonce
      (NonceSync.encodeSpanExtension sei)).drop 4) = some sei := by
    rw [heq]
    exact NonceSync.findSpanExtension_encodeSpanExtension sei cipher
  unfold Peer.announcedSpan
  rw [if_pos (hannounces.mpr hnonempty), h, hfind]

/-- The receiver settles on the SPAN that the sender draws from, and the halves stay in lockstep:
either they share it already, or the frame's extension answers the REI that the receiver keeps. -/
theorem InStep.receiveSpan {p p' q : Peer} (h : InStep p q) {sei : EntropyInput} {span : Span}
    {extensions : Bytes} (hsend : p.sendSpan ssl sei = some (span, extensions, p'))
    (inner : Bytes) (context : Encapsulation.Context) (classKey : Key) (nonce : CcmNonce) :
    InStep p' (q.receiveSpan ssl
        (Encapsulation.encrypt ssl inner context classKey nonce extensions)) ∧
      p'.span = some span ∧ (extensions ≠ [] → Encapsulation.WellFormed extensions) := by
  cases hspan : p.span with
  -- The sender has a SPAN, and the receiver has the same.
  | some s =>
    obtain ⟨rfl, rfl, rfl⟩ : s = span ∧ [] = extensions ∧ p = p' := by
      simpa [Peer.sendSpan, hspan] using hsend
    have hquiet := announcesExtensions_encrypt ssl inner context classKey nonce []
    rw [Peer.receiveSpan, Peer.announcedSpan, if_neg (by rw [hquiet]; simp)]
    exact ⟨h, hspan, by simp⟩
  | none =>
    -- The sender starts one with the REI that it has got, and the receiver with the one that it has
    -- given.
    cases hrei : p.peerRei with
    | none => simp [Peer.sendSpan, hspan, hrei] at hsend
    | some rei =>
      obtain ⟨rfl, rfl, rfl⟩ : Span.instantiate ssl sei rei p.config.personalization = span ∧
          NonceSync.encodeSpanExtension sei = extensions ∧
          { p with
            span := some (Span.instantiate ssl sei rei p.config.personalization)
            peerRei := none } = p' := by
        simpa [Peer.sendSpan, hspan, hrei] using hsend
      -- The frame announces the sender's half, from which the receiver makes the same SPAN.
      rw [Peer.receiveSpan, announcedSpan_encrypt ssl (h.peerRei rei hrei)]
      refine ⟨⟨h.config, ?_, fun _ hr => (nomatch hr), h.ourRei⟩, rfl,
        fun _ => Encapsulation.wellFormed_encodeSpanExtension sei⟩
      simp only [h.config.personalization]

variable {ssl}

/-- A message that is sent arrives, and leaves the halves in lockstep. -/
theorem InStep.message {p q : Peer} (hccm : ssl.CcmInverse) (h : InStep p q) (inner : Bytes)
    (sei : EntropyInput) {frame : Bytes} (hsend : (p.encrypt ssl inner sei).1 = some frame) :
    (q.receive ssl frame).1 = some inner ∧
      InStep (p.encrypt ssl inner sei).2 (q.receive ssl frame).2 := by
  unfold Peer.encrypt at hsend ⊢
  cases hspan : p.sendSpan ssl sei with
  | none => rw [hspan] at hsend; cases hsend
  | some sent =>
    obtain ⟨span, extensions, p'⟩ := sent
    rw [hspan] at hsend
    obtain rfl := Option.some.inj hsend
    -- The receiver has the SPAN that the sender draws from, so it derives the same nonce.
    obtain ⟨hstep, hp', hext⟩ := h.receiveSpan ssl hspan inner p'.sendContext
      p'.config.classKey (span.truncatedNonce ssl).1
    generalize hframe : Encapsulation.encrypt ssl inner p'.sendContext p'.config.classKey
      (span.truncatedNonce ssl).1 extensions = frame at hstep ⊢
    have hq' := hstep.span.symm.trans hp'
    -- What the sender authenticates is what the receiver checks: the same ids, home and number.
    have hcontext : (q.receiveSpan ssl frame).receiveContext frame =
        { p'.sendContext with sequenceNumber := frame.byte 2 } := by
      simp only [Peer.receiveContext, Peer.sendContext, hstep.config.peerNodeId,
        hstep.config.ourNodeId, hstep.config.homeId]
    have hopen := Encapsulation.decrypt_encrypt hccm inner p'.sendContext p'.config.classKey
      (span.truncatedNonce ssl).1 hext (frame.byte 2)
    rw [hframe, ← hcontext, ← hstep.config.classKey] at hopen
    simp only [Peer.receive, Peer.receiveNonce, hq']
    exact ⟨hopen, ⟨hstep.config, rfl, hstep.peerRei, hstep.ourRei⟩⟩

/-! ## Runs of exchanges -/

/-- The two ends of the link. -/
inductive Side
  /-- The end that knows its peer as `b`. -/
  | left
  /-- The end that knows its peer as `a`. -/
  | right
  deriving DecidableEq, Repr

/-- A completed exchange, with the entropy that it draws. -/
inductive Exchange
  /-- `requester` asks for an REI, and accepts the report that the other end answers with. -/
  | nonceRoundTrip (requester : Side) (rei : EntropyInput)
  /-- `sender` encrypts `inner`, and the other end receives the frame. -/
  | message (sender : Side) (inner : Bytes) (sei : EntropyInput)

/-- A message that was sent: what went in and what the other end made of the frame. -/
structure Delivery where
  /-- The sender's inner command. -/
  inner : Bytes
  /-- What the receiver decrypted. -/
  received : Option Bytes
  deriving DecidableEq, Repr

/-- `x.nonceGet`, `y.respondToNonceGet`, and `x.acceptNonceReport` of the decoded report. -/
def nonceRoundTrip (toY toX : NodeId) (rei : EntropyInput) (x y : SpanManager) :
    SpanManager × SpanManager :=
  let x := (x.nonceGet toY).2
  let (payload, y) := y.respondToNonceGet toX rei
  match NonceSync.decodeNonceReport payload with
  | none => (x, y)
  | some report => (x.acceptNonceReport toY report, y)

variable (ssl)

/-- `x.encrypt`, and, when it returns a frame, its delivery to `y`. -/
def deliver (toY toX : NodeId) (inner : Bytes) (sei : EntropyInput) (x y : SpanManager) :
    (SpanManager × SpanManager) × List Delivery :=
  match x.encrypt ssl toY inner sei with
  | (none, x) => ((x, y), [])
  | (some frame, x) =>
    let (received, y) := y.receive ssl toX frame
    ((x, y), [{ inner, received }])

/-- One exchange between the left manager, whose peer is `b`, and the right one, whose peer is
`a`. -/
def exchange (a b : NodeId) (s : SpanManager × SpanManager) :
    Exchange → (SpanManager × SpanManager) × List Delivery
  | .nonceRoundTrip .left rei => (nonceRoundTrip b a rei s.1 s.2, [])
  | .nonceRoundTrip .right rei => ((nonceRoundTrip a b rei s.2 s.1).swap, [])
  | .message .left inner sei => deliver ssl b a inner sei s.1 s.2
  | .message .right inner sei =>
    let (s, deliveries) := deliver ssl a b inner sei s.2 s.1
    (s.swap, deliveries)

/-- A round trip keeps the two managers in lockstep. -/
theorem nonceRoundTrip_inStep {toY toX : NodeId} {x y : SpanManager}
    (h : InStep (x.peers toY) (y.peers toX)) (rei : EntropyInput) :
    InStep ((nonceRoundTrip toY toX rei x y).1.peers toY)
      ((nonceRoundTrip toY toX rei x y).2.peers toX) := by
  have hdecode := NonceSync.decodeNonceReport_encodeNonceReport (y.peers toX).txSequence rei
  simp only [nonceRoundTrip, SpanManager.respondToNonceGet, Peer.respondToNonceGet,
    Peer.nonceReport, hdecode, SpanManager.acceptNonceReport, SpanManager.nonceGet,
    SpanManager.peers_set]
  exact h.roundTrip rei

variable {ssl}

/-- A delivery keeps the two managers in lockstep, and what is sent is received. -/
theorem deliver_inStep (hccm : ssl.CcmInverse) {toY toX : NodeId} {x y : SpanManager}
    (h : InStep (x.peers toY) (y.peers toX)) (inner : Bytes) (sei : EntropyInput) :
    InStep ((deliver ssl toY toX inner sei x y).1.1.peers toY)
        ((deliver ssl toY toX inner sei x y).1.2.peers toX) ∧
      ∀ d ∈ (deliver ssl toY toX inner sei x y).2, d.received = some d.inner := by
  unfold deliver SpanManager.encrypt
  rcases hsend : (x.peers toY).encrypt ssl inner sei with ⟨_ | frame, p⟩
  · simp only [SpanManager.peers_set, Peer.encrypt_eq_none ssl hsend]
    exact ⟨h, by simp⟩
  · obtain ⟨hreceived, hstep⟩ := h.message hccm inner sei (congrArg Prod.fst hsend)
    simp only [SpanManager.receive_eq, SpanManager.peers_set, List.mem_singleton, forall_eq]
    rw [hsend] at hstep
    exact ⟨hstep, hreceived⟩

/-- One exchange keeps the two managers in lockstep, and what is sent is received. -/
theorem exchange_inStep (hccm : ssl.CcmInverse) {a b : NodeId} {s : SpanManager × SpanManager}
    (h : InStep (s.1.peers b) (s.2.peers a)) (e : Exchange) :
    InStep ((exchange ssl a b s e).1.1.peers b) ((exchange ssl a b s e).1.2.peers a) ∧
      ∀ d ∈ (exchange ssl a b s e).2, d.received = some d.inner := by
  rcases e with ⟨_ | _, rei⟩ | ⟨_ | _, inner, sei⟩
  · exact ⟨nonceRoundTrip_inStep h rei, by simp [exchange]⟩
  · exact ⟨(nonceRoundTrip_inStep h.symm rei).symm, by simp [exchange]⟩
  · exact deliver_inStep hccm h inner sei
  · obtain ⟨hstep, hreceived⟩ := deliver_inStep hccm h.symm inner sei
    exact ⟨hstep.symm, hreceived⟩

/-- Any exchanges between two managers in lockstep leave them in lockstep, and every message sent is
received as it was sent. -/
theorem exec_inStep (hccm : ssl.CcmInverse) {a b : NodeId} (es : List Exchange)
    {s : SpanManager × SpanManager} (h : InStep (s.1.peers b) (s.2.peers a)) :
    InStep ((exec (exchange ssl a b) s es).1.peers b) ((exec (exchange ssl a b) s es).2.peers a) ∧
      ∀ d ∈ emitted (exchange ssl a b) s es, d.received = some d.inner := by
  induction es generalizing s with
  | nil => exact ⟨h, by simp [emitted]⟩
  | cons e es ih =>
    obtain ⟨hstep, hreceived⟩ := exchange_inStep hccm h e
    obtain ⟨hrun, hrest⟩ := ih hstep
    refine ⟨hrun, fun d hd => ?_⟩
    rcases List.mem_append.mp hd with hd | hd
    · exact hreceived d hd
    · exact hrest d hd

/-- Two managers with mirrored configurations that start with no SPAN: after any exchanges, in any
order and direction, every message that was sent was received as it was sent, and the two SPANs are
equal. -/
theorem lockstep (hccm : ssl.CcmInverse) {a b : NodeId} {s : SpanManager × SpanManager}
    (hconfig : Mirrored (s.1.peers b).config (s.2.peers a).config) (hleft : Fresh (s.1.peers b))
    (hright : Fresh (s.2.peers a)) (es : List Exchange) :
    (∀ d ∈ emitted (exchange ssl a b) s es, d.received = some d.inner) ∧
      ∀ es', es' <+: es → ((exec (exchange ssl a b) s es').1.peers b).span =
        ((exec (exchange ssl a b) s es').2.peers a).span := by
  have hstart := InStep.of_fresh hconfig hleft hright
  exact ⟨(exec_inStep hccm es hstart).2, fun es' _ => (exec_inStep hccm es' hstart).1.span⟩

/-- The controller, node 1, and a node 2 with a link configured at both ends. -/
def sampleLink : SpanManager × SpanManager :=
  (({} : SpanManager).configurePeer 2
      { classKey := Vector.replicate 16 5, ourNodeId := 1, peerNodeId := 2 },
    ({} : SpanManager).configurePeer 1
      { classKey := Vector.replicate 16 5, ourNodeId := 2, peerNodeId := 1 })

/-- A message before any SPAN, a round trip that establishes one, traffic in both directions, and a
second round trip that stays unused. -/
def sampleExchanges : List Exchange :=
  [.message .left [0x25] (Vector.replicate 16 1), .nonceRoundTrip .left (Vector.replicate 16 2),
    .message .left [0x25, 0x02] (Vector.replicate 16 3),
    .message .right [0x25, 0x03, 0xFF] (Vector.replicate 16 4),
    .nonceRoundTrip .right (Vector.replicate 16 6), .message .right [0x26] (Vector.replicate 16 7)]

/-- Three of the four messages are sent, and each is received. -/
theorem lockstep_sample :
    (emitted (exchange OpenSsl.standIn 1 2) sampleLink sampleExchanges).length = 3 ∧
      ∀ d ∈ emitted (exchange OpenSsl.standIn 1 2) sampleLink sampleExchanges,
        d.received = some d.inner := by
  refine ⟨by decide +kernel, (lockstep OpenSsl.standIn_ccmInverse ?_ ?_ ?_ _).1⟩
  · exact ⟨rfl, rfl, rfl, rfl, rfl⟩
  · exact ⟨rfl, rfl⟩
  · exact ⟨rfl, rfl⟩

end Zwaved.S2
