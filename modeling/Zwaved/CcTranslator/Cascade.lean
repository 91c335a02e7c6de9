import Mathlib.Algebra.GroupWithZero.Nat
import Mathlib.Data.List.Perm.Subperm
import Zwaved.CcTranslator.Encapsulation
import Zwaved.Reactive.Agenda
import Zwaved.S2.Transport
import Zwaved.TransportService.Invariant

/-!
# The unwrap cascade

The unwrap layer and the S2 inbound side take every ApplicationCommand of the bus and republish what
they find inside, and the bus delivers that at once, to both of them. `Cascade.machine` is this as a
machine with an agenda: the deliveries that are under way, each the frame of one publish on its way
to one of the two subscribers, in the order of the bus. Whatever other subscribers do in between may
change all of the state but the assemblers, which are the unwrap layer's own.

A frame has one owner among the two: the class byte that the S2 side looks for is not among those of
the unwrap layer. So at most one delivery of the agenda can republish anything. Each of the four
kinds of inner command is shorter than the frame it came in, but for a datagram of the Transport
Service, which is as long as its buffer. That one ends the datagram in flight, and no frame of the
chain puts another in flight and comes out of it. `weight` is the measure: the frame's length, and
while a datagram is in flight the length of its buffer and one more.
-/

namespace Zwaved.CcTranslator

open Reactive

namespace Cascade

/-- The two subscribers that republish what is inside an ApplicationCommand. -/
inductive Subscriber
  /-- `cc-translator/Encapsulation.cpp`. -/
  | encapsulation
  /-- `SecurityS2InboundOrchestrator.cpp`. -/
  | securityS2Inbound
  deriving DecidableEq

/-- The subscribers in the order in which the bus calls them, each of which subscribes once. -/
structure Bus where
  /-- The order. -/
  order : List Subscriber
  /-- Nobody is called twice. -/
  nodup : order.Nodup

/-- The state of the two. -/
structure Layers where
  /-- The unwrap layer. -/
  unwrap : Unwrap := {}
  /-- `S0::issuedNonces()`. -/
  nonces : S0.NonceTable := {}
  /-- `S0::NetworkKey::current()`. -/
  networkKey : Option S0.Key := none
  /-- The S2 transport. -/
  transport : S2.Transport := {}

/-- An ApplicationCommand on its way to a subscriber. -/
structure Delivery where
  /-- Who gets it. -/
  subscriber : Subscriber
  /-- `sourceNodeId`. -/
  sourceNodeId : NodeId
  /-- `ccData`. -/
  ccData : Bytes

/-- One hop of a chain: a subscriber got a frame and republished what was in it. -/
structure Hop where
  /-- `sourceNodeId`. -/
  sourceNodeId : NodeId
  /-- The frame that it got. -/
  consumed : Bytes
  /-- The frame that it published. -/
  republished : Bytes

/-- What a handler draws. -/
structure Draws where
  /-- `Clock::now()`. -/
  now : S0.Time
  /-- The entropy of a fresh REI. -/
  rei : S2.EntropyInput

/-- What others may change in the middle of a chain. -/
structure Change where
  /-- The unwrap layer's `controllerNodeId`. -/
  controllerNodeId : NodeId
  /-- The S0 nonces. -/
  nonces : S0.NonceTable
  /-- The S0 key. -/
  networkKey : Option S0.Key
  /-- The S2 transport. -/
  transport : S2.Transport

/-- An ApplicationCommand is published. -/
def publish (bus : Bus) (sourceNodeId : NodeId) (ccData : Bytes) : List Delivery :=
  bus.order.map fun subscriber => { subscriber, sourceNodeId, ccData }

/-- The ApplicationCommand among what the S2 transport publishes. -/
def republishedS2 : S2.Published → Option (NodeId × Bytes)
  | .applicationCommand sourceNodeId ccData => some (sourceNodeId, ccData)
  | .sendData .. => none

variable (ssl : S0.OpenSsl) (ssl2 : S2.OpenSsl)

/-- A delivery reaches its subscriber: the state after it and the ApplicationCommands published. -/
def handle (layers : Layers) (delivery : Delivery) (draws : Draws) :
    Layers × List (NodeId × Bytes) :=
  match delivery.subscriber with
  | .encapsulation =>
    let ((unwrap, nonces), inner) := layers.unwrap.onApplicationCommand ssl layers.networkKey
      layers.nonces delivery.sourceNodeId delivery.ccData draws.now
    ({ layers with unwrap, nonces },
      (inner.map fun inner => (delivery.sourceNodeId, inner.2)).toList)
  | .securityS2Inbound =>
    let (transport, published) := layers.transport.inbound ssl2 delivery.sourceNodeId
      delivery.ccData draws.rei
    ({ layers with transport }, published.filterMap republishedS2)

/-- The two subscribers on the bus. -/
def machine (bus : Bus) : Dispatcher Layers Delivery Draws Empty Empty Change Hop where
  work layers delivery draws :=
    let (layers, published) := handle ssl ssl2 layers delivery draws
    (layers, published.flatMap fun inner => publish bus inner.1 inner.2,
      published.map fun inner => ⟨inner.1, delivery.ccData, inner.2⟩)
  enter := Empty.elim
  nest := Empty.elim
  alter layers change :=
    { unwrap := { layers.unwrap with controllerNodeId := change.controllerNodeId }
      nonces := change.nonces
      networkKey := change.networkKey
      transport := change.transport }

/-- The deliveries that one ApplicationCommand starts with. -/
def begin (bus : Bus) (layers : Layers) (sourceNodeId : NodeId) (ccData : Bytes) :
    Config Layers Delivery :=
  { state := layers, agenda := publish bus sourceNodeId ccData }

/-! ## The measure -/

/-- `u` has a datagram of the node in flight. -/
def InFlight (u : Unwrap) (nodeId : NodeId) : Prop := (u.assemblers nodeId).active = true

/-- How often a frame that is not shorter can still come out: once, while a datagram is in
flight. -/
def credit (u : Unwrap) (nodeId : NodeId) : ℕ := if (u.assemblers nodeId).active then 1 else 0

/-- The measure of a frame that is to be handled. -/
def weight (u : Unwrap) (nodeId : NodeId) (data : Bytes) : ℕ :=
  data.length + credit u nodeId * ((u.assemblers nodeId).buffer.length + 1)

/-- The subscriber that a frame is for. -/
def owner (data : Bytes) : Subscriber :=
  if data.byte 0 = S2.NonceSync.commandClass then .securityS2Inbound else .encapsulation

/-- What republishing `inner` out of `data` does: the inner frame is shorter, and no datagram comes
to be in flight, or the datagram in flight came out. -/
inductive Opened (u u' : Unwrap) (nodeId : NodeId) (data inner : Bytes) : Prop
  /-- An inner command. -/
  | inner (shorter : inner.length < data.length)
    (kept : u'.assemblers nodeId = u.assemblers nodeId ∨ ¬ InFlight u' nodeId)
  /-- A datagram that was in flight. -/
  | datagram (inFlight : InFlight u nodeId)
    (whole : inner.length = (u.assemblers nodeId).buffer.length) (done : ¬ InFlight u' nodeId)

variable {ssl ssl2} {u u' : Unwrap} {nodeId : NodeId} {data inner : Bytes}

/-- With no datagram of the node in flight there is no credit. -/
theorem credit_of_not {u : Unwrap} {nodeId : NodeId} (h : ¬ InFlight u nodeId) :
    credit u nodeId = 0 := if_neg h

/-- With a datagram of the node in flight there is one credit. -/
theorem credit_of_inFlight {u : Unwrap} {nodeId : NodeId} (h : InFlight u nodeId) :
    credit u nodeId = 1 := if_pos h

/-- The credit depends on the node's assembler only. -/
theorem credit_congr (h : u'.assemblers nodeId = u.assemblers nodeId) :
    credit u' nodeId = credit u nodeId := by
  simp only [credit, h]

/-- The weight of a frame depends on its length and the node's assembler only. -/
theorem weight_congr (h : u'.assemblers nodeId = u.assemblers nodeId) (data : Bytes) :
    weight u' nodeId data = weight u nodeId data := by
  simp only [weight, credit_congr h, h]

/-- The measure of the frame that is republished is less than that of the one consumed. -/
theorem Opened.weight_lt (h : Opened u u' nodeId data inner) :
    weight u' nodeId inner < weight u nodeId data := by
  cases h with
  | inner shorter kept =>
    rcases kept with hsame | hnone
    · rw [weight_congr hsame]
      simp only [weight]
      omega
    · simp only [weight, credit_of_not hnone]
      omega
  | datagram inFlight whole done =>
    simp only [weight, credit_of_not done, credit_of_inFlight inFlight]
    omega

/-- A republished frame that is not shorter than the one consumed uses up the credit of its node,
and a shorter one adds none. -/
theorem Opened.credit_le (h : Opened u u' nodeId data inner) :
    (if inner.length < data.length then 0 else 1) + credit u' nodeId ≤ credit u nodeId := by
  cases h with
  | inner shorter kept =>
    rw [if_pos shorter, Nat.zero_add]
    rcases kept with hsame | hnone
    · rw [credit_congr hsame]
    · rw [credit_of_not hnone]
      exact Nat.zero_le _
  | datagram inFlight whole done =>
    rw [credit_of_not done, credit_of_inFlight inFlight]
    split <;> omega

/-! ## What a subscriber does -/

/-- The unwrap layer leaves alone what it does not know. -/
theorem onApplicationCommand_not_owned {networkKey : Option S0.Key} {nonces : S0.NonceTable}
    {now : S0.Time} (h : data.byte 0 = S2.NonceSync.commandClass) :
    u.onApplicationCommand ssl networkKey nonces nodeId data now = ((u, nonces), none) := by
  unfold Unwrap.onApplicationCommand
  split
  · rfl
  have hcrc : data.byte 0 ≠ Crc16Encap.commandClass := by rw [h]; decide
  have htransport : data.byte 0 ≠ TransportService.commandClass := by rw [h]; decide
  have hs0 : data.byte 0 ≠ S0.Security.commandClass := by rw [h]; decide
  rw [if_neg fun hboth => hcrc hboth.1, if_neg htransport, if_neg fun hboth => hs0 hboth.1]

/-- What the unwrap layer republishes comes out of the frame as `Opened` says: it is shorter, or it
is the datagram that the frame completes. -/
theorem opened_onApplicationCommand (hofb : ssl.OfbStream) {networkKey : Option S0.Key}
    {nonces : S0.NonceTable} {now : S0.Time} {origin : Origin}
    (h : (u.onApplicationCommand ssl networkKey nonces nodeId data now).2 = some (origin, inner)) :
    Opened u (u.onApplicationCommand ssl networkKey nonces nodeId data now).1.1 nodeId data
      inner := by
  unfold Unwrap.onApplicationCommand at h ⊢
  split at h
  -- A frame of fewer than two bytes opens nothing.
  · cases h
  next hlong =>
  rw [if_neg hlong]
  split at h
  -- The first branch checks and strips the CRC-16, and the payload is shorter.
  · next hcrc =>
    rw [if_pos hcrc]
    obtain ⟨plain, hplain, heq⟩ := Option.map_eq_some_iff.mp h
    obtain ⟨-, rfl⟩ := Prod.mk.inj heq
    exact .inner (Crc16Encap.length_verifyAndUnwrap hplain) (Or.inl rfl)
  next hcrc =>
  rw [if_neg hcrc]
  split at h
  -- The second branch feeds a segment, which publishes only what it has completed.
  · next htransport =>
    rw [if_pos htransport]
    unfold Unwrap.feedSegment at h ⊢
    cases hfeed : (u.assemblers nodeId).feedSegment data with
    | error fault => rw [hfeed] at h; cases h
    | ok result =>
      obtain ⟨assembler, out⟩ := result
      rw [hfeed] at h
      obtain ⟨plain, rfl, heq⟩ := Option.map_eq_some_iff.mp h
      obtain ⟨-, rfl⟩ := Prod.mk.inj heq
      obtain ⟨hdone, hlen⟩ := TransportService.Assembler.feedSegment_eq_some hfeed
      have hnone : ¬ InFlight { u with
          assemblers := Function.update u.assemblers nodeId assembler } nodeId := by
        simp only [InFlight, Function.update_self, hdone]
        exact Bool.false_ne_true
      -- The datagram is shorter than the segment, or it is what the assembler has been collecting;
      -- then the assembler is free again.
      rcases hlen with hshorter | ⟨hactive, hwhole⟩
      · exact .inner hshorter (Or.inr hnone)
      · exact .datagram hactive hwhole hnone
  next htransport =>
  rw [if_neg htransport]
  split at h
  -- The third branch decrypts, and the inner command is shorter than its frame.
  · next hs0 =>
    rw [if_pos hs0]
    obtain ⟨nonce, -, hopens⟩ := Unwrap.openS0_eq_some h
    obtain ⟨-, key, -, hdecrypt⟩ := hopens
    exact .inner (S0.Encapsulation.length_decrypt hofb hdecrypt) (Or.inl rfl)
  · cases h

/-- The S2 side does nothing with a frame that is not of its class. -/
theorem inbound_not_owned {s : S2.Transport} {rei : S2.EntropyInput}
    (h : data.byte 0 ≠ S2.NonceSync.commandClass) : s.inbound ssl2 nodeId data rei = (s, []) := by
  unfold S2.Transport.inbound
  rw [if_pos (Or.inr h)]

/-- What the S2 side republishes: nothing, or a shorter frame from the same node. -/
theorem inbound_republished (s : S2.Transport) (rei : S2.EntropyInput) :
    (s.inbound ssl2 nodeId data rei).2.filterMap republishedS2 = [] ∨
      ∃ inner : Bytes, (s.inbound ssl2 nodeId data rei).2.filterMap republishedS2 =
        [(nodeId, inner)] ∧ inner.length < data.length := by
  unfold S2.Transport.inbound
  split
  · exact Or.inl rfl
  split
  · exact Or.inl rfl
  split
  · exact Or.inl rfl
  split
  · exact Or.inl rfl
  split
  · exact Or.inl rfl
  dsimp only
  split
  · exact Or.inl rfl
  next inner hdecrypt =>
  exact Or.inr ⟨inner, rfl, S2.Encapsulation.length_decrypt hdecrypt⟩

/-- A delivery to a subscriber that the frame is not for does nothing. -/
theorem handle_not_owned (layers : Layers) {delivery : Delivery} (draws : Draws)
    (h : owner delivery.ccData ≠ delivery.subscriber) :
    handle ssl ssl2 layers delivery draws = (layers, []) := by
  obtain ⟨subscriber, nodeId, data⟩ := delivery
  unfold owner at h
  cases subscriber with
  | encapsulation =>
    have hclass : data.byte 0 = S2.NonceSync.commandClass := by
      by_contra hclass
      exact h (if_neg hclass)
    simp only [handle, onApplicationCommand_not_owned hclass]
    rfl
  | securityS2Inbound =>
    have hclass : data.byte 0 ≠ S2.NonceSync.commandClass := fun hclass => h (if_pos hclass)
    simp only [handle, inbound_not_owned hclass]
    rfl

/-- A delivery republishes nothing, or one frame from the same node. -/
theorem handle_published (hofb : ssl.OfbStream) (layers : Layers) (delivery : Delivery)
    (draws : Draws) :
    (handle ssl ssl2 layers delivery draws).2 = [] ∨
      ∃ inner, (handle ssl ssl2 layers delivery draws).2 = [(delivery.sourceNodeId, inner)] ∧
        Opened layers.unwrap (handle ssl ssl2 layers delivery draws).1.unwrap
          delivery.sourceNodeId delivery.ccData inner := by
  obtain ⟨subscriber, nodeId, data⟩ := delivery
  cases subscriber with
  | encapsulation =>
    -- Of the three branches the translator republishes in at most one.
    cases hinner : (layers.unwrap.onApplicationCommand ssl layers.networkKey layers.nonces nodeId
        data draws.now).2 with
    | none =>
      left
      simp only [handle, hinner]
      rfl
    | some result =>
      right
      have hopened := opened_onApplicationCommand hofb hinner
      refine ⟨result.2, ?_, hopened⟩
      simp only [handle, hinner]
      rfl
  | securityS2Inbound =>
    -- The other subscriber republishes an inner command that is shorter than the frame.
    rcases @inbound_republished ssl2 nodeId data layers.transport draws.rei with
      hnone | ⟨inner, hone, hlen⟩
    · exact Or.inl hnone
    · exact Or.inr ⟨inner, hone, .inner hlen (Or.inl rfl)⟩

/-! ## Chains -/

/-- The hops form a chain that starts with the frame `data` from the node: each consumes what the
one before republished. -/
def Linked (nodeId : NodeId) : Bytes → List Hop → Prop
  | _, [] => True
  | data, hop :: hops => hop.sourceNodeId = nodeId ∧ hop.consumed = data ∧
      Linked nodeId hop.republished hops

/-- The frame that a chain has come to. -/
def reached (data : Bytes) (hops : List Hop) : Bytes :=
  hops.foldl (fun _ hop => hop.republished) data

/-- The hop republished a frame strictly shorter than the one it consumed. -/
def Hop.Shrinks (hop : Hop) : Prop := hop.republished.length < hop.consumed.length

instance (hop : Hop) : Decidable hop.Shrinks := inferInstanceAs (Decidable (_ < _))

/-- How many hops republished a frame that was not shorter. -/
def longHops (hops : List Hop) : ℕ := hops.countP fun hop => ¬ hop.Shrinks

/-- An empty chain has no long hop. -/
@[simp] theorem longHops_nil : longHops [] = 0 := rfl

/-- One more hop counts as a long one unless it shrinks the frame. -/
theorem longHops_concat (hops : List Hop) (nodeId : NodeId) (consumed republished : Bytes) :
    longHops (hops ++ [⟨nodeId, consumed, republished⟩]) =
      longHops hops + (if republished.length < consumed.length then 0 else 1) := by
  rw [longHops, List.countP_append, List.countP_singleton, longHops]
  by_cases hshorter : republished.length < consumed.length
  · simp [Hop.Shrinks, hshorter]
  · simp [Hop.Shrinks, hshorter]

/-- A hop of the node that consumes what the chain has come to makes it longer. -/
theorem Linked.concat {hops : List Hop} {hop : Hop} (h : Linked nodeId data hops)
    (hnode : hop.sourceNodeId = nodeId) (hconsumed : hop.consumed = reached data hops) :
    Linked nodeId data (hops ++ [hop]) := by
  induction hops generalizing data with
  | nil => exact ⟨hnode, hconsumed, trivial⟩
  | cons first hops ih => exact ⟨h.1, h.2.1, ih h.2.2 hconsumed⟩

/-- The deliveries that can republish something. -/
def live (agenda : List Delivery) : List Delivery :=
  agenda.filter fun delivery => owner delivery.ccData = delivery.subscriber

/-- One ApplicationCommand has at most one live delivery. -/
theorem live_publish (bus : Bus) (nodeId : NodeId) (data : Bytes) :
    live (publish bus nodeId data) = [] ∨
      live (publish bus nodeId data) = [⟨owner data, nodeId, data⟩] := by
  -- Each subscriber is there once, and only the one that owns the frame has a live delivery.
  have hnodup : (live (publish bus nodeId data)).Nodup :=
    (bus.nodup.map fun a b h => congrArg Delivery.subscriber h).filter _
  have hall : live (publish bus nodeId data) ⊆ [⟨owner data, nodeId, data⟩] := by
    intro delivery hmem
    obtain ⟨hmem, howner⟩ := List.mem_filter.mp hmem
    obtain ⟨subscriber, -, rfl⟩ := List.mem_map.mp hmem
    have howner : owner data = subscriber := of_decide_eq_true howner
    rw [← howner]
    exact List.mem_singleton_self _
  have hlen := (List.subperm_of_subset hnodup hall).length_le
  cases hlive : live (publish bus nodeId data) with
  | nil => exact Or.inl rfl
  | cons first rest =>
    rw [hlive] at hall hlen
    obtain rfl : rest = [] := by
      cases rest with
      | nil => rfl
      | cons second rest => simp only [List.length_cons, List.length_nil] at hlen; omega
    rw [List.mem_singleton.mp (hall List.mem_cons_self)]
    exact Or.inr rfl

/-- What the live deliveries of an agenda weigh. -/
def liveWeight (c : Config Layers Delivery) (nodeId : NodeId) : ℕ :=
  ((live c.agenda).map fun delivery => weight c.state.unwrap nodeId delivery.ccData).sum

/-- How many deliveries there can still be. -/
def rank (bus : Bus) (nodeId : NodeId) (c : Config Layers Delivery) : ℕ :=
  c.agenda.length + bus.order.length * liveWeight c nodeId

/-- Where a chain stands after `hops`. -/
structure Chain (layers : Layers) (nodeId : NodeId) (data : Bytes) (hops : List Hop)
    (c : Config Layers Delivery) : Prop where
  /-- The hops are a chain. -/
  linked : Linked nodeId data hops
  /-- At most one delivery is live, and it carries the frame that the chain has come to. -/
  pending : live c.agenda = [] ∨
    live c.agenda = [⟨owner (reached data hops), nodeId, reached data hops⟩]
  /-- A frame that was not shorter was paid for. -/
  paid : longHops hops + (live c.agenda).length * credit c.state.unwrap nodeId ≤ 1
  /-- The measure has gone down with each hop. -/
  lower : hops.length + liveWeight c nodeId ≤ weight layers.unwrap nodeId data

variable {bus : Bus}

/-- There is at most one credit. -/
theorem credit_le_one (u : Unwrap) (nodeId : NodeId) : credit u nodeId ≤ 1 := by
  unfold credit
  split <;> omega

/-- The frame that comes in is the chain without a hop, on the agenda of its subscribers. -/
theorem chain_begin (bus : Bus) (layers : Layers) (nodeId : NodeId) (data : Bytes) :
    Chain layers nodeId data [] (begin bus layers nodeId data) := by
  have hcredit := credit_le_one layers.unwrap nodeId
  rcases live_publish bus nodeId data with hlive | hlive
  · exact ⟨trivial, Or.inl hlive, by simp [begin, hlive], by simp [begin, liveWeight, hlive]⟩
  · exact ⟨trivial, Or.inr hlive, by simpa [begin, hlive] using hcredit,
      by simp [begin, liveWeight, hlive]⟩

/-- What is live on an agenda is live in each of its parts. -/
theorem live_append (agenda rest : List Delivery) :
    live (agenda ++ rest) = live agenda ++ live rest := List.filter_append ..

/-- A delivery that is not live is taken off the agenda. -/
theorem Chain.skip {layers : Layers} {hops : List Hop} {c : Config Layers Delivery}
    (h : Chain layers nodeId data hops c) {delivery : Delivery} {rest : List Delivery}
    (hhead : c.agenda = delivery :: rest) (hdead : owner delivery.ccData ≠ delivery.subscriber) :
    Chain layers nodeId data hops { c with agenda := rest } ∧
      rank bus nodeId { c with agenda := rest } < rank bus nodeId c := by
  have hlive : live c.agenda = live rest := by
    rw [hhead, live, List.filter_cons_of_neg (by simpa using hdead)]
    rfl
  have hweight : liveWeight c nodeId = liveWeight { c with agenda := rest } nodeId := by
    rw [liveWeight, hlive]
    rfl
  obtain ⟨hlinked, hpending, hpaid, hlower⟩ := h
  rw [hlive] at hpending hpaid
  rw [hweight] at hlower
  refine ⟨⟨hlinked, hpending, hpaid, hlower⟩, ?_⟩
  simp only [rank, hweight, hhead, List.length_cons]
  omega

/-- The live delivery is taken off the agenda, and nothing comes of it. -/
theorem Chain.finish {layers state : Layers} {hops : List Hop} {c : Config Layers Delivery}
    (h : Chain layers nodeId data hops c) {delivery : Delivery} {rest : List Delivery}
    (hhead : c.agenda = delivery :: rest) (hdead : live rest = []) :
    Chain layers nodeId data hops { state, agenda := rest } ∧
      rank bus nodeId { state, agenda := rest } < rank bus nodeId c := by
  have hweight : liveWeight { state, agenda := rest } nodeId = 0 := by
    simp only [liveWeight, hdead, List.map_nil, List.sum_nil]
  obtain ⟨hlinked, -, hpaid, hlower⟩ := h
  refine ⟨⟨hlinked, Or.inl hdead, ?_, ?_⟩, ?_⟩
  · rw [hdead, List.length_nil, Nat.zero_mul]
    omega
  · rw [hweight]
    omega
  · simp only [rank, hweight, hhead, List.length_cons]
    omega

/-- When the one live delivery is handled and opens to a shorter frame, or to a datagram, the chain
is longer by that hop and its measure has gone down. -/
theorem Chain.hop {layers state : Layers} {hops : List Hop} {c : Config Layers Delivery}
    (h : Chain layers nodeId data hops c) {delivery : Delivery} {rest : List Delivery}
    (hhead : c.agenda = delivery :: rest) (hdead : live rest = [])
    (hlive : live c.agenda = [⟨owner (reached data hops), nodeId, reached data hops⟩])
    (hopened : Opened c.state.unwrap state.unwrap nodeId (reached data hops) inner) :
    Chain layers nodeId data (hops ++ [⟨nodeId, reached data hops, inner⟩])
        { state, agenda := publish bus nodeId inner ++ rest } ∧
      rank bus nodeId { state, agenda := publish bus nodeId inner ++ rest } <
        rank bus nodeId c := by
  -- The chain has gone on to the inner command.
  have hreached : reached data (hops ++ [⟨nodeId, reached data hops, inner⟩]) = inner := by
    simp only [reached, List.foldl_append, List.foldl_cons, List.foldl_nil]
  have hagenda : live (publish bus nodeId inner ++ rest) = live (publish bus nodeId inner) := by
    rw [live_append, hdead, List.append_nil]
  -- Before the hop the only live delivery is the one that is worked off; after it the only one is
  -- of the inner command.
  have hbefore : liveWeight c nodeId = weight c.state.unwrap nodeId (reached data hops) := by
    simp only [liveWeight, hlive, List.map_singleton, List.sum_singleton]
  have hafter : liveWeight { state, agenda := publish bus nodeId inner ++ rest } nodeId ≤
      weight state.unwrap nodeId inner := by
    simp only [liveWeight, hagenda]
    rcases live_publish bus nodeId inner with hnone | hone
    · simp only [hnone, List.map_nil, List.sum_nil, Nat.zero_le]
    · simp only [hone, List.map_singleton, List.sum_singleton, Nat.le_refl]
  -- The weight has fallen, and a hop that is longer has been paid for with the credit.
  have hweight := hopened.weight_lt
  have hcredit := hopened.credit_le
  obtain ⟨hlinked, -, hpaid, hlower⟩ := h
  rw [hlive, List.length_singleton, Nat.one_mul] at hpaid
  rw [hbefore] at hlower
  refine ⟨⟨hlinked.concat rfl rfl, ?_, ?_, ?_⟩, ?_⟩
  -- At most one delivery of the new ones is live.
  · rw [hagenda, hreached]
    exact live_publish bus nodeId inner
  -- The longer hop, if it is one, uses up the credit that the assembler gave.
  · rw [hagenda, longHops_concat]
    show _ + _ * credit state.unwrap nodeId ≤ 1
    rcases live_publish bus nodeId inner with hnone | hone
    · rw [hnone, List.length_nil, Nat.zero_mul]
      omega
    · rw [hone, List.length_singleton, Nat.one_mul]
      omega
  · rw [List.length_append, List.length_singleton]
    omega
  · -- The new deliveries are paid for by one unit of the measure.
    have hpay : bus.order.length *
          (liveWeight { state, agenda := publish bus nodeId inner ++ rest } nodeId + 1) ≤
        bus.order.length * liveWeight c nodeId :=
      Nat.mul_le_mul_left _ (by omega)
    have hpublished : (publish bus nodeId inner).length = bus.order.length := List.length_map ..
    simp only [rank, hhead, List.length_append, List.length_cons, hpublished]
    rw [Nat.mul_add, Nat.mul_one] at hpay
    omega

/-- An action taken leaves a chain a chain, and lowers the rank. -/
theorem Chain.work (hofb : ssl.OfbStream) {layers : Layers} {hops : List Hop}
    {c : Config Layers Delivery} (h : Chain layers nodeId data hops c) {delivery : Delivery}
    {rest : List Delivery} (hhead : c.agenda = delivery :: rest) (draws : Draws) :
    Chain layers nodeId data (hops ++ ((machine ssl ssl2 bus).step c (.work draws)).2)
        ((machine ssl ssl2 bus).step c (.work draws)).1 ∧
      rank bus nodeId ((machine ssl ssl2 bus).step c (.work draws)).1 < rank bus nodeId c := by
  rw [Dispatcher.step_work _ hhead]
  by_cases howner : owner delivery.ccData = delivery.subscriber
  · -- The delivery is the live one, so nothing behind it is.
    have hcons : live c.agenda = delivery :: live rest := by
      rw [hhead, live, List.filter_cons_of_pos (by simpa using howner)]
      rfl
    have hone : live c.agenda = [⟨owner (reached data hops), nodeId, reached data hops⟩] := by
      rcases h.pending with hnone | hone
      · rw [hcons] at hnone
        cases hnone
      · exact hone
    obtain ⟨hdelivery, hrest⟩ := List.cons.inj (hcons.symm.trans hone)
    rcases @handle_published ssl ssl2 hofb c.state delivery draws with
      hnone | ⟨inner, hinner, hopened⟩
    · simp only [machine, hnone, List.flatMap_nil, List.map_nil, List.nil_append, List.append_nil]
      exact h.finish hhead hrest
    · rw [hdelivery] at hinner hopened ⊢
      simp only [machine, hinner, List.flatMap_cons, List.flatMap_nil, List.map_cons,
        List.map_nil, List.append_nil]
      exact h.hop hhead hrest hone hopened
  · simp only [machine, handle_not_owned c.state draws howner, List.flatMap_nil, List.map_nil,
      List.nil_append, List.append_nil]
    exact h.skip hhead howner

/-- One move of the dispatcher leaves the chain one, with the hop of that move if there was one. -/
theorem Chain.step (hofb : ssl.OfbStream) {layers : Layers} {hops : List Hop}
    {c : Config Layers Delivery} (h : Chain layers nodeId data hops c)
    (move : Move Draws Empty Empty Change) :
    Chain layers nodeId data (hops ++ ((machine ssl ssl2 bus).step c move).2)
      ((machine ssl ssl2 bus).step c move).1 := by
  cases move with
  | work draws =>
    cases hagenda : c.agenda with
    | nil =>
      simp only [Dispatcher.step, hagenda, List.append_nil]
      exact h
    | cons delivery rest => exact (h.work hofb hagenda draws).1
  | enter event => exact event.elim
  | nest message => exact message.elim
  | alter change =>
    -- The assemblers stay, and nothing else is weighed.
    simp only [Dispatcher.step, List.append_nil]
    exact ⟨h.linked, h.pending, h.paid, h.lower⟩

/-- The chain of ApplicationCommands that one ApplicationCommand sets off ends, whatever is nested
in it and whatever other subscribers do in between: there are at most as many hops as the frame and
the datagram in flight have bytes, every hop but at most one republishes a shorter frame, and after
finitely many deliveries nothing is left to deliver. -/
theorem cascade_terminates (hofb : ssl.OfbStream) (bus : Bus) (layers : Layers) (nodeId : NodeId)
    (data : Bytes) (moves : List (Move Draws Empty Empty Change)) :
    let start := begin bus layers nodeId data
    let hops := emitted (machine ssl ssl2 bus).step start moves
    Linked nodeId data hops ∧ longHops hops ≤ 1 ∧
      hops.length ≤ weight layers.unwrap nodeId data ∧
      (rank bus nodeId start ≤ Dispatcher.works moves →
        (exec (machine ssl ssl2 bus).step start moves).agenda = []) := by
  intro start hops
  have hchain : Chain layers nodeId data hops (exec (machine ssl ssl2 bus).step start moves) :=
    emitted_induction _ start (chain_begin bus layers nodeId data)
      (fun hops c move h => h.step hofb move) moves
  have hpaid := hchain.paid
  have hlower := hchain.lower
  have hinv : ∀ c move, (∃ hops, Chain layers nodeId data hops c) →
      ∃ hops, Chain layers nodeId data hops ((machine ssl ssl2 bus).step c move).1 :=
    fun c move ⟨hops, h⟩ => ⟨_, h.step hofb move⟩
  have hwork : ∀ c draws, (∃ hops, Chain layers nodeId data hops c) → c.agenda ≠ [] →
      rank bus nodeId ((machine ssl ssl2 bus).step c (.work draws)).1 < rank bus nodeId c := by
    intro c draws ⟨hops, h⟩ hleft
    obtain ⟨delivery, rest, hhead⟩ := List.exists_cons_of_ne_nil hleft
    exact (h.work hofb hhead draws).2
  have hpos : ∀ c, (∃ hops, Chain layers nodeId data hops c) → c.agenda ≠ [] →
      0 < rank bus nodeId c := by
    intro c _ hleft
    have hlength := List.length_pos_iff.mpr hleft
    simp only [rank]
    omega
  refine ⟨hchain.linked, by omega, by omega, fun hmany => ?_⟩
  exact Dispatcher.agenda_eq_nil hinv hwork (fun c change _ => Nat.le_refl _) hpos moves
    ⟨[], chain_begin bus layers nodeId data⟩ hmany

/-- The chain of a frame that is twice wrapped in a CRC-16 Encapsulation. -/
theorem cascade_terminates_nested :
    let bus : Bus := ⟨[.encapsulation, .securityS2Inbound], by decide⟩
    let frame : Bytes := [0x56, 0x01, 0x56, 0x01, 0x20, 0x02, 0x4D, 0x26, 0x23, 0xC9]
    let start := begin bus {} 7 frame
    let moves := List.replicate 22 (.work ⟨0, Vector.replicate 16 0⟩)
    longHops (emitted (machine .standIn .standIn bus).step start moves) ≤ 1 ∧
      (exec (machine .standIn .standIn bus).step start moves).agenda = [] :=
  have h := @cascade_terminates .standIn .standIn S0.OpenSsl.standIn_ofbStream
    ⟨[.encapsulation, .securityS2Inbound], by decide⟩ {} 7
    [0x56, 0x01, 0x56, 0x01, 0x20, 0x02, 0x4D, 0x26, 0x23, 0xC9]
    (List.replicate 22 (.work ⟨0, Vector.replicate 16 0⟩))
  ⟨h.2.1, h.2.2.2 (by decide)⟩

end Cascade

end Zwaved.CcTranslator
