import Zwaved.S2.Encapsulation

/-!
# The SPAN manager

`SpanManager.cpp` keeps, for every peer, the SPAN in use and the two entropy inputs that are on
their way to one: the REI we handed out (`ourRei`) and the REI the peer handed to us (`peerRei`).
`encrypt` draws a nonce to send, `receiveNonce` one to receive, and both may instantiate the SPAN
first.

Each operation is first given on the state of one peer, and then on the table. Fresh entropy is an
argument: the source calls its entropy source where the model uses the argument. `encrypt` and
`receiveNonce` are split where the source has a blank line: `sendSpan` and `receiveSpan` are what
happens to the SPAN before the nonce is drawn from it.
-/

namespace Zwaved.S2

/-- `SpanManager::PeerConfig`. -/
structure PeerConfig where
  /-- `classKey`. -/
  classKey : Key := Vector.replicate 16 0
  /-- `personalization`. -/
  personalization : Personalization := Vector.replicate 32 0
  /-- `homeId`. -/
  homeId : HomeId := Vector.replicate 4 0
  /-- `ourNodeId`. -/
  ourNodeId : NodeId := 0
  /-- `peerNodeId`. -/
  peerNodeId : NodeId := 0
  deriving DecidableEq, Repr

/-- `SpanManager::Peer`. -/
structure Peer where
  /-- `config`. -/
  config : PeerConfig := {}
  /-- `span`: the SPAN in use. -/
  span : Option Span := none
  /-- `ourRei`: the REI we issued, awaiting the peer's SEI. -/
  ourRei : Option EntropyInput := none
  /-- `peerRei`: the peer's REI, for us to establish on the next send. -/
  peerRei : Option EntropyInput := none
  /-- `txSequence`. -/
  txSequence : UInt8 := 0
  deriving DecidableEq, Repr

variable (ssl : OpenSsl)

namespace Peer

/-- `nonceGet`. -/
def nonceGet (p : Peer) : Bytes × Peer :=
  (NonceSync.encodeNonceGet p.txSequence, { p with txSequence := p.txSequence + 1 })

/-- The report that `respondToNonceGet` encodes. -/
def nonceReport (p : Peer) (rei : EntropyInput) : NonceSync.Report where
  sequenceNumber := p.txSequence
  sos := true
  mos := false
  rei := some rei

/-- `respondToNonceGet`, with the fresh REI that it draws. -/
def respondToNonceGet (p : Peer) (rei : EntropyInput) : Bytes × Peer :=
  (NonceSync.encodeNonceReport (p.nonceReport rei),
    { p with ourRei := some rei, txSequence := p.txSequence + 1 })

/-- `acceptNonceReport`. -/
def acceptNonceReport (p : Peer) (report : NonceSync.Report) : Peer :=
  if report.sos ∧ report.rei.isSome then { p with peerRei := report.rei } else p

/-- The first half of `encrypt`: the SPAN to send under and the extension to announce it with. With
no SPAN, the peer's REI and the fresh `sei` make one; with neither, there is nothing to send
under. -/
def sendSpan (p : Peer) (sei : EntropyInput) : Option (Span × Bytes × Peer) :=
  match p.span, p.peerRei with
  -- A SPAN that is up goes first: an REI that came since is not looked at.
  | some span, _ => some (span, [], p)
  | none, none => none
  | none, some rei =>
    let span := Span.instantiate ssl sei rei p.config.personalization
    some (span, NonceSync.encodeSpanExtension sei, { p with span := some span, peerRei := none })

/-- What the associated data binds of a frame that we send. -/
def sendContext (p : Peer) : Encapsulation.Context where
  senderNodeId := p.config.ourNodeId
  receiverNodeId := p.config.peerNodeId
  homeId := p.config.homeId
  sequenceNumber := p.txSequence

/-- `encrypt`: a frame for `inner`, under the next nonce of the SPAN. -/
def encrypt (p : Peer) (inner : Bytes) (sei : EntropyInput) : Option Bytes × Peer :=
  match p.sendSpan ssl sei with
  | none => (none, p)
  | some (span, spanExtension, p) =>
    let (nonce, span) := span.truncatedNonce ssl
    (some (Encapsulation.encrypt ssl inner p.sendContext p.config.classKey nonce spanExtension),
      { p with span := some span, txSequence := p.txSequence + 1 })

/-- An `encrypt` that gives no frame leaves the peer as it is. -/
theorem encrypt_eq_none {p p' : Peer} {inner : Bytes} {sei : EntropyInput}
    (h : p.encrypt ssl inner sei = (none, p')) : p' = p := by
  unfold encrypt at h
  cases hspan : p.sendSpan ssl sei with
  | none => rw [hspan] at h; exact (Prod.mk.inj h).2.symm
  | some => rw [hspan] at h; cases (Prod.mk.inj h).1

/-- `encrypt` never drops a SPAN: a peer without one afterwards had none before. -/
theorem span_eq_none_of_encrypt {p : Peer} (inner : Bytes) (sei : EntropyInput)
    (h : (p.encrypt ssl inner sei).2.span = none) : p.span = none := by
  unfold encrypt at h
  cases hspan : p.sendSpan ssl sei with
  | none => rw [hspan] at h; exact h
  | some => rw [hspan] at h; cases h

/-- `encrypt` keeps the configuration. -/
theorem encrypt_config (p : Peer) (inner : Bytes) (sei : EntropyInput) :
    (p.encrypt ssl inner sei).2.config = p.config := by
  unfold encrypt sendSpan
  cases p.span with
  | some => rfl
  | none => cases p.peerRei <;> rfl

/-- A frame that `encrypt` makes is under the class key of the configuration. -/
theorem encrypt_frame {p p' : Peer} {inner frame : Bytes} {sei : EntropyInput}
    (h : p.encrypt ssl inner sei = (some frame, p')) :
    ∃ context nonce extensions,
      frame = Encapsulation.encrypt ssl inner context p.config.classKey nonce extensions := by
  unfold encrypt sendSpan at h
  cases hspan : p.span with
  | some span =>
    rw [hspan] at h
    exact ⟨_, _, _, (Option.some.inj (Prod.mk.inj h).1).symm⟩
  | none =>
    cases hrei : p.peerRei with
    | none => rw [hspan, hrei] at h; cases (Prod.mk.inj h).1
    | some rei =>
      rw [hspan, hrei] at h
      exact ⟨_, _, _, (Option.some.inj (Prod.mk.inj h).1).symm⟩

/-- An encapsulated frame that announces extensions in the clear. -/
def AnnouncesExtensions (frame : Bytes) : Prop :=
  frame.length ≥ 4 ∧ frame.byte 0 = NonceSync.commandClass ∧
    frame.byte 1 = Encapsulation.messageEncapsulation ∧ frame.byte 3 &&& 0x01 ≠ 0

instance (frame : Bytes) : Decidable (AnnouncesExtensions frame) :=
  inferInstanceAs (Decidable (_ ∧ _))

/-- The SPAN that the extension of a frame makes, when it answers the REI we issued. -/
def announcedSpan (p : Peer) (frame : Bytes) : Option Span :=
  if AnnouncesExtensions frame then
    match p.ourRei, NonceSync.findSpanExtension (frame.drop 4) with
    | some rei, some sei => some (Span.instantiate ssl sei rei p.config.personalization)
    | _, _ => none
  else none

/-- The first half of `receiveNonce`: an announced SPAN replaces the one in use. -/
def receiveSpan (p : Peer) (frame : Bytes) : Peer :=
  match p.announcedSpan ssl frame with
  | some span => { p with span := some span, ourRei := none }
  | none => p

/-- `receiveNonce`: the next nonce of the SPAN, to open `frame` with. -/
def receiveNonce (p : Peer) (frame : Bytes) : Option CcmNonce × Peer :=
  let p := p.receiveSpan ssl frame
  match p.span with
  | none => (none, p)
  | some span =>
    let (nonce, span) := span.truncatedNonce ssl
    (some nonce, { p with span := some span })

/-- A SPAN that is received leaves the configuration. -/
@[simp] theorem receiveSpan_config (p : Peer) (frame : Bytes) :
    (p.receiveSpan ssl frame).config = p.config := by
  unfold receiveSpan
  cases p.announcedSpan ssl frame <;> rfl

/-- A SPAN that is received leaves the entropy input that the peer sent. -/
@[simp] theorem receiveSpan_peerRei (p : Peer) (frame : Bytes) :
    (p.receiveSpan ssl frame).peerRei = p.peerRei := by
  unfold receiveSpan
  cases p.announcedSpan ssl frame <;> rfl

/-- A SPAN that is received leaves the sequence number of what is sent. -/
@[simp] theorem receiveSpan_txSequence (p : Peer) (frame : Bytes) :
    (p.receiveSpan ssl frame).txSequence = p.txSequence := by
  unfold receiveSpan
  cases p.announcedSpan ssl frame <;> rfl

/-- The SPAN that a frame is received under: the announced one, or else the one in use. -/
theorem receiveSpan_span (p : Peer) (frame : Bytes) :
    (p.receiveSpan ssl frame).span = (p.announcedSpan ssl frame).or p.span := by
  unfold receiveSpan
  cases p.announcedSpan ssl frame <;> rfl

/-- `receiveNonce` moves the SPAN that the frame is received under on by one nonce. -/
theorem receiveNonce_eq (p : Peer) (frame : Bytes) :
    p.receiveNonce ssl frame =
      ((p.receiveSpan ssl frame).span.map fun span => (span.truncatedNonce ssl).1,
        { p.receiveSpan ssl frame with
          span := (p.receiveSpan ssl frame).span.map (Span.advance ssl) }) := by
  unfold receiveNonce
  generalize p.receiveSpan ssl frame = q
  obtain ⟨config, span, ourRei, peerRei, txSequence⟩ := q
  cases span <;> rfl

/-- A SPAN stays: `receiveNonce` never drops it. -/
theorem span_eq_none_of_receiveNonce {p : Peer} (frame : Bytes)
    (h : (p.receiveNonce ssl frame).2.span = none) : p.span = none := by
  rw [receiveNonce_eq] at h
  have hspan : (p.receiveSpan ssl frame).span = none := Option.map_eq_none_iff.mp h
  rw [receiveSpan_span] at hspan
  exact (Option.or_eq_none_iff.mp hspan).2

/-- A nonce to receive with is one of the SPAN in use from then on. -/
theorem span_of_receiveNonce (p : Peer) (frame : Bytes)
    (h : (p.receiveNonce ssl frame).1 ≠ none) : (p.receiveNonce ssl frame).2.span ≠ none := by
  rw [receiveNonce_eq] at h ⊢
  rw [ne_eq, Option.map_eq_none_iff] at h ⊢
  exact h

/-- What the associated data binds of a frame that we receive. -/
def receiveContext (p : Peer) (frame : Bytes) : Encapsulation.Context where
  senderNodeId := p.config.peerNodeId
  receiverNodeId := p.config.ourNodeId
  homeId := p.config.homeId
  sequenceNumber := frame.byte 2

/-- `receiveNonce` followed by `Encapsulation::decrypt` under the peer's configuration, as every
caller has it. -/
def receive (p : Peer) (frame : Bytes) : Option Bytes × Peer :=
  match p.receiveNonce ssl frame with
  | (none, p) => (none, p)
  | (some nonce, p) =>
    (Encapsulation.decrypt ssl frame (p.receiveContext frame) p.config.classKey nonce, p)

/-- What `receive` leaves behind is what `receiveNonce` does, whether the frame opens or not. -/
theorem receive_snd (p : Peer) (frame : Bytes) :
    (p.receive ssl frame).2 = (p.receiveNonce ssl frame).2 := by
  unfold receive
  rcases p.receiveNonce ssl frame with ⟨_ | nonce, q⟩ <;> rfl

end Peer

/-- `SpanManager`: the peers by node id. A peer that was never named reads as the empty one, as
`peers_[peer]` makes it. -/
structure SpanManager where
  /-- `peers_`. -/
  peers : NodeId → Peer := fun _ => {}

namespace SpanManager

/-- The table with the state of one peer replaced. -/
def set (m : SpanManager) (peer : NodeId) (p : Peer) : SpanManager where
  peers := Function.update m.peers peer p

/-- A peer that is stored is there. -/
@[simp] theorem peers_set (m : SpanManager) (peer : NodeId) (p : Peer) :
    (m.set peer p).peers peer = p := Function.update_self ..

/-- Storing a peer leaves the others. -/
theorem peers_set_of_ne (m : SpanManager) {peer other : NodeId} (h : other ≠ peer) (p : Peer) :
    (m.set peer p).peers other = m.peers other := Function.update_of_ne h ..

/-- Replacing a peer's state by one with the same configuration keeps every configuration. -/
theorem peers_set_config (m : SpanManager) {peer : NodeId} {p : Peer}
    (h : p.config = (m.peers peer).config) (other : NodeId) :
    ((m.set peer p).peers other).config = (m.peers other).config := by
  by_cases heq : other = peer
  · rw [heq, peers_set, h]
  · rw [peers_set_of_ne m heq]

/-- `configurePeer`. -/
def configurePeer (m : SpanManager) (peer : NodeId) (config : PeerConfig) : SpanManager :=
  m.set peer { m.peers peer with config }

/-- `hasSpan`. -/
def hasSpan (m : SpanManager) (peer : NodeId) : Bool := (m.peers peer).span.isSome

/-- `nonceGet`. -/
def nonceGet (m : SpanManager) (peer : NodeId) : Bytes × SpanManager :=
  let (payload, p) := (m.peers peer).nonceGet
  (payload, m.set peer p)

/-- `respondToNonceGet`. -/
def respondToNonceGet (m : SpanManager) (peer : NodeId) (rei : EntropyInput) :
    Bytes × SpanManager :=
  let (payload, p) := (m.peers peer).respondToNonceGet rei
  (payload, m.set peer p)

/-- `acceptNonceReport`. -/
def acceptNonceReport (m : SpanManager) (peer : NodeId) (report : NonceSync.Report) :
    SpanManager :=
  m.set peer ((m.peers peer).acceptNonceReport report)

/-- `encrypt`. -/
def encrypt (m : SpanManager) (peer : NodeId) (inner : Bytes) (sei : EntropyInput) :
    Option Bytes × SpanManager :=
  let (frame, p) := (m.peers peer).encrypt ssl inner sei
  (frame, m.set peer p)

/-- `receiveNonce`. -/
def receiveNonce (m : SpanManager) (peer : NodeId) (frame : Bytes) :
    Option CcmNonce × SpanManager :=
  let (nonce, p) := (m.peers peer).receiveNonce ssl frame
  (nonce, m.set peer p)

/-- `receiveNonce` followed by `Encapsulation::decrypt` under the peer's configuration. -/
def receive (m : SpanManager) (peer : NodeId) (frame : Bytes) : Option Bytes × SpanManager :=
  match m.receiveNonce ssl peer frame with
  | (none, m) => (none, m)
  | (some nonce, m) =>
    let p := m.peers peer
    (Encapsulation.decrypt ssl frame (p.receiveContext frame) p.config.classKey nonce, m)

/-- The table receives a frame as the peer does, and stores what comes of it. -/
theorem receive_eq (m : SpanManager) (peer : NodeId) (frame : Bytes) :
    m.receive ssl peer frame =
      (((m.peers peer).receive ssl frame).1, m.set peer ((m.peers peer).receive ssl frame).2) := by
  unfold receive receiveNonce Peer.receive
  rcases (m.peers peer).receiveNonce ssl frame with ⟨_ | nonce, p⟩ <;> simp

/-- `exportSpan`, which `exportAll` collects over the peers. -/
def exportSpan (m : SpanManager) (peer : NodeId) : Option InnerState :=
  (m.peers peer).span.map Span.serialize

/-- `importSpan`. -/
def importSpan (m : SpanManager) (peer : NodeId) (inner : InnerState) : SpanManager :=
  m.set peer { m.peers peer with span := some (Span.deserialize inner) }

end SpanManager

end Zwaved.S2
