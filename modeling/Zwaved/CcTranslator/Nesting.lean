import Zwaved.CcTranslator.Bursts
import Zwaved.CcTranslator.Cascade
import Zwaved.S0.MacInput
import Zwaved.S2.JoiningNode

/-!
# Nested wrappings come off

A node may wrap a command in a CRC-16 Encapsulation, in S0 under a nonce that the controller has
issued to it, and in S2 over the channel that the two share, in any order and the first two more
than once. `nesting_unwraps` is about the frame that comes of it: the cascade takes the wrappings
off one by one, the outermost first, republishes what is in each exactly once, ends with the command
and then has nothing left to deliver. The nonces that were named are spent, and the S2 channel is up
on both sides.

A frame that is wrapped twice in S2 over one channel does not come through: the node makes the inner
frame first, so its nonce comes before that of the outer one, and the controller opens the outer one
first.
-/

namespace Zwaved.CcTranslator

open Reactive

namespace Cascade

/-- A node that wraps commands for the controller. -/
structure Sender where
  /-- The node. -/
  nodeId : NodeId
  /-- The controller. -/
  controllerNodeId : NodeId
  /-- The S0 network key. -/
  networkKey : S0.Key
  /-- The node's half of the S2 channel. -/
  channel : S2.Peer

/-- A wrapping, with what the sender picks for it. -/
inductive Wrapping
  /-- CRC-16 Encapsulation. -/
  | crc16
  /-- S0, with a nonce of the sender and one that the controller has issued. -/
  | s0 (senderNonce receiverNonce : S0.Nonce)
  /-- S2, with the entropy of a SPAN that the frame may have to announce. -/
  | s2 (sei : S2.EntropyInput)
  deriving DecidableEq

/-- The nonce of the controller that the wrapping names. -/
def Wrapping.receiverNonce? : Wrapping → Option S0.Nonce
  | .s0 _ receiverNonce => some receiverNonce
  | _ => none

/-- The wrapping is S2. -/
def Wrapping.isS2 : Wrapping → Bool
  | .s2 _ => true
  | _ => false

section Wrap

variable (ssl : S0.OpenSsl) (ssl2 : S2.OpenSsl) (sender : Sender)

/-- A command in a wrapping. -/
def wrap (wrapping : Wrapping) (inner : Bytes) : Bytes :=
  match wrapping with
  | .crc16 => Crc16Encap.encode inner
  | .s0 senderNonce receiverNonce =>
    S0.Encapsulation.encrypt ssl inner sender.nodeId sender.controllerNodeId senderNonce
      receiverNonce sender.networkKey
  | .s2 sei => ((sender.channel.encrypt ssl2 inner sei).1).getD []

/-- A command in wrappings, the outermost first. -/
def wrapAll (wrappings : List Wrapping) (ccData : Bytes) : Bytes :=
  wrappings.foldr (wrap ssl ssl2 sender) ccData

/-- The hops by which the wrappings come off. -/
def unwrapHops (ccData : Bytes) : List Wrapping → List Hop
  | [] => []
  | wrapping :: wrappings =>
    ⟨sender.nodeId, wrapAll ssl ssl2 sender (wrapping :: wrappings) ccData,
      wrapAll ssl ssl2 sender wrappings ccData⟩ :: unwrapHops ccData wrappings

end Wrap

/-- The controller's half of the channel, with the configuration that the registry gives it. -/
def configuredPeer (ssl2 : S2.OpenSsl) (transport : S2.Transport) (nodeId : NodeId) : S2.Peer :=
  match transport.peerConfig ssl2 nodeId with
  | some config => { transport.manager.peers nodeId with config }
  | none => transport.manager.peers nodeId

/-- The controller listens to the wrappings of the sender: it has the S0 key, it has issued the
nonces, each for one wrapping, and they are fresh at every time it may look; and there is a channel
for the one wrapping that is S2. -/
structure Listens (ssl2 : S2.OpenSsl) (sender : Sender) (layers : Layers)
    (wrappings : List Wrapping) (draws : List Draws) : Prop where
  /-- The S0 MAC is over the controller's id. -/
  controllerNodeId : layers.unwrap.controllerNodeId = sender.controllerNodeId
  /-- The S0 key. -/
  networkKey : wrappings.filterMap Wrapping.receiverNonce? ≠ [] →
    layers.networkKey = some sender.networkKey
  /-- The nonces have been issued, and are fresh. -/
  issued : ∀ nonce ∈ wrappings.filterMap Wrapping.receiverNonce?, ∃ time,
    layers.nonces.entries sender.nodeId nonce.id = some ⟨nonce, time⟩ ∧
      ∀ d ∈ draws, d.now - time ≤ S0.NonceTable.freshness
  /-- No two wrappings name one nonce. -/
  distinct : ((wrappings.filterMap Wrapping.receiverNonce?).map S0.Nonce.id).Nodup
  /-- At most one of them is S2. -/
  single : wrappings.countP Wrapping.isS2 ≤ 1
  /-- The node is known with an S2 class, and the channel is up. -/
  channel : 0 < wrappings.countP Wrapping.isS2 →
    layers.transport.peerConfig ssl2 sender.nodeId ≠ none ∧
      S2.Joined sender.channel (configuredPeer ssl2 layers.transport sender.nodeId)

/-- The command is none that the two subscribers take for themselves. -/
def Plain (ccData : Bytes) : Prop :=
  ccData.byte 0 ≠ S2.NonceSync.commandClass ∧ ccData.byte 0 ≠ TransportService.commandClass ∧
    ¬ (ccData.byte 0 = Crc16Encap.commandClass ∧ ccData.byte 1 = Crc16Encap.crc16Encap) ∧
    ¬ (ccData.byte 0 = S0.Security.commandClass ∧
      ccData.byte 1 = S0.Security.messageEncapsulation)

instance (ccData : Bytes) : Decidable (Plain ccData) := by
  unfold Plain
  infer_instance

section Unwrap

variable {ssl : S0.OpenSsl} {ssl2 : S2.OpenSsl} {sender : Sender} {layers : Layers}
  {wrappings : List Wrapping} {draws : List Draws} {inner : Bytes}

/-! ## One wrapping -/

/-- A delivery of the frame to its subscriber republishes what is in it. -/
def Republishes (ssl : S0.OpenSsl) (ssl2 : S2.OpenSsl) (layers layers' : Layers) (nodeId : NodeId)
    (frame inner : Bytes) (d : Draws) : Prop :=
  handle ssl ssl2 layers ⟨owner frame, nodeId, frame⟩ d = (layers', [(nodeId, inner)])

/-- A command that is not empty comes out of CRC-16 Encapsulation, and the layers stay as they
are. -/
theorem republishes_crc16 (hne : inner ≠ []) (layers : Layers) (nodeId : NodeId) (d : Draws) :
    Republishes ssl ssl2 layers layers nodeId (Crc16Encap.encode inner) inner d := by
  have howner : owner (Crc16Encap.encode inner) = .encapsulation := rfl
  have hlength : ¬ (Crc16Encap.encode inner).length < 2 := by
    simp [Crc16Encap.encode]
  unfold Republishes
  rw [howner]
  unfold handle Unwrap.onApplicationCommand
  dsimp only
  rw [if_neg hlength, if_pos ⟨rfl, rfl⟩, Crc16Encap.verifyAndUnwrap_encode hne]
  rfl

/-- `take` gives out a nonce that is there and fresh, and empties its slot. -/
theorem take_eq {nonces : S0.NonceTable} {nodeId : NodeId} {nonce : S0.Nonce} {now time : S0.Time}
    (hentry : nonces.entries nodeId nonce.id = some ⟨nonce, time⟩)
    (hfresh : now - time ≤ S0.NonceTable.freshness) :
    nonces.take nodeId nonce.id now = (some nonce, nonces.set nodeId nonce.id none) := by
  unfold S0.NonceTable.take
  rw [hentry]
  dsimp only
  rw [if_neg (Nat.not_lt.mpr hfresh)]

/-- The nonce id in an encrypted S0 frame is that of the receiver's nonce. -/
theorem nonceId_encrypt (hofb : ssl.OfbKeystream) (inner : Bytes)
    (nodeId controllerNodeId : NodeId)
    (senderNonce receiverNonce : S0.Nonce) (networkKey : S0.Key) :
    let frame := S0.Encapsulation.encrypt ssl inner nodeId controllerNodeId senderNonce
      receiverNonce networkKey
    frame.length = inner.length + Unwrap.minFrame ∧
      frame.byte (frame.length - 9) = receiverNonce.id := by
  intro frame
  -- All that stands before the id is kept as one piece: only its length matters.
  obtain ⟨before, hbefore⟩ : ∃ before : Bytes, before =
      [S0.Security.commandClass, S0.Security.messageEncapsulation] ++ senderNonce.toList ++
        S0.Crypto.ofbCrypt ssl (S0.Crypto.deriveKeys ssl networkKey).encryption
          (S0.Encapsulation.makeIv senderNonce receiverNonce)
          (S0.Encapsulation.sequenceSingle :: inner) := ⟨_, rfl⟩
  obtain ⟨mac, hmac⟩ : ∃ mac : S0.Mac, frame = before ++ ([receiverNonce[0]] ++ mac.toList) := by
    rw [hbefore]
    simp only [frame, S0.Encapsulation.encrypt, List.append_assoc]
    exact ⟨_, rfl⟩
  have hlength : before.length = inner.length + 11 := by
    rw [hbefore, List.length_append, List.length_append, S0.Crypto.length_ofbCrypt hofb,
      Vector.length_toList, List.length_cons]
    simp only [List.length_cons, List.length_nil]
    omega
  have hframe : frame.length = inner.length + Unwrap.minFrame := by
    rw [hmac, List.length_append, List.length_append, Vector.length_toList, hlength]
    rfl
  -- Behind the id stands the MAC of eight bytes.
  have hplace : frame.length - 9 = before.length + 0 := by
    rw [hframe, hlength]
    simp only [Unwrap.minFrame]
    omega
  refine ⟨hframe, ?_⟩
  rw [hplace, hmac]
  exact Bytes.byte_append_right before _ 0

/-- A command comes out of S0 under the key of the network, with the receiver's nonce while it is
fresh, and that nonce is spent. -/
theorem republishes_s0 (hofb : ssl.OfbKeystream) {senderNonce receiverNonce : S0.Nonce}
    {time : S0.Time} {d : Draws}
    (hcontroller : layers.unwrap.controllerNodeId = sender.controllerNodeId)
    (hkey : layers.networkKey = some sender.networkKey)
    (hentry : layers.nonces.entries sender.nodeId receiverNonce.id = some ⟨receiverNonce, time⟩)
    (hfresh : d.now - time ≤ S0.NonceTable.freshness) (inner : Bytes) :
    Republishes ssl ssl2 layers
      { layers with nonces := layers.nonces.set sender.nodeId receiverNonce.id none }
      sender.nodeId (wrap ssl ssl2 sender (.s0 senderNonce receiverNonce) inner) inner d := by
  obtain ⟨frame, hframe⟩ : ∃ frame : Bytes, frame =
      S0.Encapsulation.encrypt ssl inner sender.nodeId sender.controllerNodeId senderNonce
        receiverNonce sender.networkKey := ⟨_, rfl⟩
  -- The id is read back where the handler looks for it, and the frame opens to what was sealed.
  obtain ⟨hlength, hid⟩ := nonceId_encrypt hofb inner sender.nodeId
    sender.controllerNodeId senderNonce receiverNonce sender.networkKey
  have hopens := S0.Encapsulation.decrypt_encrypt hofb inner sender.nodeId sender.controllerNodeId
    senderNonce receiverNonce sender.networkKey
  have hclass : frame.byte 0 = S0.Security.commandClass := by rw [hframe]; rfl
  have hcommand : frame.byte 1 = S0.Security.messageEncapsulation := by rw [hframe]; rfl
  rw [← hframe] at hlength hid hopens
  have howner : owner frame = .encapsulation := by
    unfold owner
    rw [hclass]
    rfl
  have hshort : ¬ frame.length < Unwrap.minFrame := by omega
  have hlong : ¬ frame.length < 2 := by
    have hmin : Unwrap.minFrame = 20 := rfl
    omega
  have hwrap : wrap ssl ssl2 sender (.s0 senderNonce receiverNonce) inner = frame := hframe.symm
  -- From here on the handler is followed line by line, each of its guards refused by the frame's
  -- shape.
  unfold Republishes
  rw [hwrap, howner]
  unfold handle Unwrap.onApplicationCommand
  dsimp only
  rw [if_neg hlong, if_neg (by rw [hclass]; exact fun h => absurd h.1 (by decide)),
    if_neg (by rw [hclass]; decide), if_pos ⟨hclass, hcommand⟩]
  unfold Unwrap.openS0
  rw [if_neg hshort, hkey]
  dsimp only
  -- The nonce is on the table and fresh, so it is taken off it and the frame is opened with it.
  rw [hid, take_eq hentry hfresh]
  dsimp only
  rw [hcontroller, hopens]
  rfl

/-- What the state of the channel after a frame is, the command in the frame does not matter to. -/
theorem encrypt_snd (p : S2.Peer) (inner inner' : Bytes) (sei : S2.EntropyInput) :
    (p.encrypt ssl2 inner sei).2 = (p.encrypt ssl2 inner' sei).2 := by
  unfold S2.Peer.encrypt
  cases p.sendSpan ssl2 sei <;> rfl

/-- The S2 side opens what the configured half of the channel opens. -/
theorem inbound_of_receive {s : S2.Transport} {nodeId : NodeId} {config : S2.PeerConfig}
    {frame : Bytes} (rei : S2.EntropyInput)
    (hconfig : s.peerConfig ssl2 nodeId = some config)
    (hlong : 2 ≤ frame.length) (hclass : frame.byte 0 = S2.NonceSync.commandClass)
    (hcommand : frame.byte 1 = S2.Encapsulation.messageEncapsulation)
    (hreceive : ((configuredPeer ssl2 s nodeId).receive ssl2 frame).1 = some inner) :
    ∃ manager, s.inbound ssl2 nodeId frame rei =
        ({ s with manager }, [.applicationCommand nodeId inner]) ∧
      manager.peers nodeId = ((configuredPeer ssl2 s nodeId).receive ssl2 frame).2 := by
  have hpeer : configuredPeer ssl2 s nodeId = { s.manager.peers nodeId with config } := by
    unfold configuredPeer
    rw [hconfig]
  -- The peer is configured with the addresses that the frame was sealed for.
  obtain ⟨hhome, hour, hpeerId⟩ : config.homeId = s.homeId ∧
      config.ourNodeId = s.controllerNodeId ∧ config.peerNodeId = nodeId := by
    unfold S2.Transport.peerConfig at hconfig
    split at hconfig
    · obtain ⟨derived, -, rfl⟩ := Option.map_eq_some_iff.mp hconfig
      exact ⟨rfl, rfl, rfl⟩
    · cases hconfig
  rw [hpeer] at hreceive ⊢
  generalize hq : ({ s.manager.peers nodeId with config } : S2.Peer) = q at hreceive ⊢
  -- Receiving the nonce of the frame does not change the configuration, which the opening reads
  -- once more.
  have hqconfig : q.config = config := by rw [← hq]
  have hkept : (q.receiveNonce ssl2 frame).2.config = config := by
    rw [S2.Peer.receiveNonce_eq, ← hqconfig]
    exact S2.Peer.receiveSpan_config ssl2 q frame
  unfold S2.Transport.inbound
  rw [if_neg (by rw [hclass]; simp; omega), S2.Transport.configurePeer, hconfig]
  dsimp only [Option.map_some]
  -- The command is none of those that are answered, so the frame goes to the SPAN.
  rw [if_neg (by rw [hcommand]; decide), if_neg (not_not.mpr hcommand)]
  unfold S2.SpanManager.receiveNonce
  rw [S2.SpanManager.configurePeer, S2.SpanManager.peers_set, hq]
  unfold S2.Peer.receive at hreceive ⊢
  -- Without a nonce the frame would not open, which is against the assumption.
  rcases hnonce : q.receiveNonce ssl2 frame with ⟨_ | nonce, q'⟩
  · rw [hnonce] at hreceive
    cases hreceive
  · rw [hnonce] at hreceive hkept
    dsimp only at hreceive hkept ⊢
    rw [S2.Peer.receiveContext, hkept, hhome, hour, hpeerId] at hreceive
    rw [hreceive]
    exact ⟨_, rfl, S2.SpanManager.peers_set ..⟩

variable (ssl) in
/-- A command comes out of S2 on a joined channel, which stays joined behind the frame. -/
theorem republishes_s2 (hccm : ssl2.CcmInverse)
    (hconfig : layers.transport.peerConfig ssl2 sender.nodeId ≠ none)
    (hjoined : S2.Joined sender.channel (configuredPeer ssl2 layers.transport sender.nodeId))
    (sei : S2.EntropyInput) (inner : Bytes) (d : Draws) :
    ∃ transport, Republishes ssl ssl2 layers { layers with transport } sender.nodeId
        (wrap ssl ssl2 sender (.s2 sei) inner) inner d ∧
      S2.Joined (sender.channel.encrypt ssl2 [] sei).2
        (transport.manager.peers sender.nodeId) := by
  obtain ⟨config, hconfig⟩ := Option.ne_none_iff_exists'.mp hconfig
  obtain ⟨frame, hsend, hconveys⟩ := hjoined.conveys_next hccm inner sei
  have hwrap : wrap ssl ssl2 sender (.s2 sei) inner = frame := by
    rw [wrap, hsend]
    rfl
  -- The header tells whose the frame is.
  obtain ⟨context, nonce, extensions, hframe⟩ := S2.Peer.encrypt_frame ssl2
    (Prod.ext hsend rfl : sender.channel.encrypt ssl2 inner sei = (some frame, _))
  obtain ⟨cipher, hcipher⟩ := S2.Encapsulation.encrypt_eq ssl2 inner context
    sender.channel.config.classKey nonce extensions
  rw [← hframe] at hcipher
  have hclass : frame.byte 0 = S2.NonceSync.commandClass := by rw [hcipher]; rfl
  have hcommand : frame.byte 1 = S2.Encapsulation.messageEncapsulation := by rw [hcipher]; rfl
  have hlong : 2 ≤ frame.length := by
    rw [hcipher]
    simp
  have howner : owner frame = .securityS2Inbound := if_pos hclass
  obtain ⟨manager, hinbound, hpeer⟩ := inbound_of_receive d.rei hconfig hlong hclass
    hcommand hconveys.received
  refine ⟨{ layers.transport with manager }, ?_, ?_⟩
  · unfold Republishes
    rw [hwrap, howner]
    unfold handle
    dsimp only
    rw [hinbound]
    rfl
  · rw [encrypt_snd _ [] inner]
    dsimp only
    rw [hpeer]
    exact hconveys.joined

/-! ## One after the other -/

/-- What the wrappings have changed when they are off: their nonces are spent, and the S2 channel,
if one of them was S2, is up on both sides. -/
structure Unwrapped (ssl2 : S2.OpenSsl) (sender : Sender) (layers layers' : Layers)
    (wrappings : List Wrapping) : Prop where
  /-- The unwrap layer. -/
  unwrap : layers'.unwrap = layers.unwrap
  /-- The S0 key. -/
  networkKey : layers'.networkKey = layers.networkKey
  /-- The nonces. -/
  nonces : ∀ peer nonceId, layers'.nonces.entries peer nonceId =
    if peer = sender.nodeId ∧
        nonceId ∈ (wrappings.filterMap Wrapping.receiverNonce?).map S0.Nonce.id then none
    else layers.nonces.entries peer nonceId
  /-- The S2 transport, when there was nothing for it. -/
  transport : wrappings.countP Wrapping.isS2 = 0 → layers'.transport = layers.transport
  /-- The S2 channel. -/
  channel : ∀ sei, .s2 sei ∈ wrappings →
    S2.Joined (sender.channel.encrypt ssl2 [] sei).2
      (layers'.transport.manager.peers sender.nodeId)

/-- With no wrappings left, nothing is unwrapped. -/
theorem unwrapped_nil (layers : Layers) : Unwrapped ssl2 sender layers layers [] where
  unwrap := rfl
  networkKey := rfl
  nonces _ _ := by simp
  transport _ := rfl
  channel _ h := by cases h

/-- When the outermost wrapping comes off and then the others do, all of them are off, with at most
one S2 among them. -/
theorem Unwrapped.cons {layers' layers'' : Layers} {wrapping : Wrapping}
    (hfirst : Unwrapped ssl2 sender layers layers' [wrapping])
    (hrest : Unwrapped ssl2 sender layers' layers'' wrappings)
    (hsingle : (wrapping :: wrappings).countP Wrapping.isS2 ≤ 1) :
    Unwrapped ssl2 sender layers layers'' (wrapping :: wrappings) where
  unwrap := hrest.unwrap.trans hfirst.unwrap
  networkKey := hrest.networkKey.trans hfirst.networkKey
  nonces peer nonceId := by
    -- The nonces spent by the outermost wrapping and by those within are together those of the
    -- list.
    have hmem : nonceId ∈ ((wrapping :: wrappings).filterMap Wrapping.receiverNonce?).map
        S0.Nonce.id ↔ nonceId ∈ ([wrapping].filterMap Wrapping.receiverNonce?).map S0.Nonce.id ∨
          nonceId ∈ (wrappings.filterMap Wrapping.receiverNonce?).map S0.Nonce.id := by
      rw [← List.mem_append, ← List.map_append, ← List.filterMap_append]
      rfl
    rw [hrest.nonces, hfirst.nonces]
    simp only [hmem]
    by_cases hpeer : peer = sender.nodeId
    · by_cases hthere : nonceId ∈ (wrappings.filterMap Wrapping.receiverNonce?).map S0.Nonce.id
      · simp [hpeer, hthere]
      · simp [hpeer, hthere]
    · simp [hpeer]
  transport hnone := by
    -- There is no S2 wrapping among all of them, so neither here nor within.
    rw [List.countP_cons] at hnone
    obtain ⟨hothers, hthis⟩ := Nat.add_eq_zero_iff.mp hnone
    have hone : [wrapping].countP Wrapping.isS2 = 0 := by
      rw [List.countP_cons, List.countP_nil, hthis]
    exact (hrest.transport hothers).trans (hfirst.transport hone)
  channel sei hmem := by
    -- At most one wrapping is S2, so within an S2 wrapping the transport is not touched any more.
    rcases List.mem_cons.mp hmem with heq | hmem
    · have hnone : wrappings.countP Wrapping.isS2 = 0 := by
        rw [← heq, List.countP_cons] at hsingle
        simp only [Wrapping.isS2, if_true] at hsingle
        omega
      rw [hrest.transport hnone]
      exact hfirst.channel sei (by rw [heq]; exact List.mem_singleton_self _)
    · exact hrest.channel sei hmem

/-- The outermost wrapping comes off, and the controller listens to the others. -/
theorem Listens.peel (hofb : ssl.OfbKeystream) (hccm : ssl2.CcmInverse) {wrapping : Wrapping}
    (h : Listens ssl2 sender layers (wrapping :: wrappings) draws) (hne : inner ≠ []) {d : Draws}
    (hd : d ∈ draws) :
    ∃ layers', Republishes ssl ssl2 layers layers' sender.nodeId
        (wrap ssl ssl2 sender wrapping inner) inner d ∧
      Listens ssl2 sender layers' wrappings draws ∧
      Unwrapped ssl2 sender layers layers' [wrapping] := by
  obtain ⟨hcontroller, hkey, hissued, hdistinct, hsingle, hchannel⟩ := h
  cases wrapping with
  -- The CRC-16 wrapping has no state: it is checked and taken off.
  | crc16 =>
    exact ⟨layers, republishes_crc16 hne layers sender.nodeId d,
      ⟨hcontroller, hkey, hissued, hdistinct, hsingle, hchannel⟩,
      ⟨rfl, rfl, fun _ _ => by simp [Wrapping.receiverNonce?], fun _ => rfl,
        fun _ hmem => by simp at hmem⟩⟩
  | s0 senderNonce receiverNonce =>
    -- The nonce that the S0 wrapping spends is one that was issued, and no wrapping within names
    -- its id.
    obtain ⟨time, hentry, hfresh⟩ := hissued receiverNonce (by simp [Wrapping.receiverNonce?])
    have hids : receiverNonce.id ∉
        (wrappings.filterMap Wrapping.receiverNonce?).map S0.Nonce.id ∧
          ((wrappings.filterMap Wrapping.receiverNonce?).map S0.Nonce.id).Nodup := by
      simpa [Wrapping.receiverNonce?] using hdistinct
    have hset : ∀ peer nonceId,
        (layers.nonces.set sender.nodeId receiverNonce.id none).entries peer nonceId =
          if peer = sender.nodeId ∧ nonceId = receiverNonce.id then none
          else layers.nonces.entries peer nonceId := by
      intro peer nonceId
      unfold S0.NonceTable.set
      by_cases hpeer : peer = sender.nodeId
      · by_cases hid : nonceId = receiverNonce.id <;> simp [hpeer, hid]
      · simp [hpeer]
    have hkey : layers.networkKey = some sender.networkKey :=
      hkey (by simp [Wrapping.receiverNonce?])
    refine ⟨_, republishes_s0 hofb hcontroller hkey hentry (hfresh d hd) inner,
      ⟨hcontroller, fun _ => hkey, fun nonce hmem => ?_, hids.2, by simpa [Wrapping.isS2] using hsingle,
        by simpa [Wrapping.isS2] using hchannel⟩,
      ⟨rfl, rfl, fun peer nonceId => ?_, fun _ => rfl, fun _ hmem => by simp at hmem⟩⟩
    -- A nonce for a wrapping within is still on the table, as only the other id has been taken off
    -- it.
    · obtain ⟨time', hentry', hfresh'⟩ := hissued nonce (List.mem_filterMap.mpr
        (by obtain ⟨w, hw, hnonce⟩ := List.mem_filterMap.mp hmem
            exact ⟨w, List.mem_cons_of_mem _ hw, hnonce⟩))
      refine ⟨time', ?_, hfresh'⟩
      dsimp only
      rw [hset, if_neg, hentry']
      rintro ⟨-, hid⟩
      exact hids.1 (hid ▸ List.mem_map_of_mem hmem)
    · dsimp only
      rw [hset]
      simp [Wrapping.receiverNonce?]
  | s2 sei =>
    -- The S2 wrapping moves the SPAN on; the wrappings within are of another kind and do not see
    -- it.
    obtain ⟨hconfig, hjoined⟩ := hchannel (by simp [Wrapping.isS2])
    have hnone : wrappings.countP Wrapping.isS2 = 0 := by
      rw [List.countP_cons] at hsingle
      simp only [Wrapping.isS2, if_true] at hsingle
      omega
    obtain ⟨transport, hrepublishes, hafter⟩ :=
      republishes_s2 ssl hccm hconfig hjoined sei inner d
    refine ⟨_, hrepublishes, ⟨hcontroller, hkey, hissued, hdistinct, by omega, by omega⟩,
      ⟨rfl, rfl, fun _ _ => by simp [Wrapping.receiverNonce?], fun hzero => ?_,
        fun sei' hmem => ?_⟩⟩
    · simp [Wrapping.isS2] at hzero
    · obtain rfl : sei' = sei := by simpa using hmem
      exact hafter

/-- A command in wrappings is not empty. -/
theorem wrapAll_ne_nil {ccData : Bytes} (hne : ccData ≠ [])
    (hup : 0 < wrappings.countP Wrapping.isS2 → sender.channel.span ≠ none) :
    wrapAll ssl ssl2 sender wrappings ccData ≠ [] := by
  cases wrappings with
  | nil => exact hne
  | cons wrapping wrappings =>
    cases wrapping with
    | crc16 | s0 => exact List.cons_ne_nil _ _
    | s2 sei =>
      obtain ⟨span, hspan⟩ :=
        Option.ne_none_iff_exists'.mp (hup (by simp [Wrapping.isS2]))
      have hwrap : wrapAll ssl ssl2 sender (.s2 sei :: wrappings) ccData =
          (sender.channel.encrypt ssl2 (wrapAll ssl ssl2 sender wrappings ccData) sei).1.getD [] :=
        rfl
      rw [hwrap, S2.Peer.encrypt, S2.Peer.sendSpan, hspan]
      exact List.cons_ne_nil _ _

/-! ## The run -/

variable {bus : Bus} {c : Config Layers Delivery} {rest : List Delivery} {frame : Bytes}
  {nodeId : NodeId}

/-- With both subscribers on the bus, a frame is delivered to the one that it is for and to the
other, in one of two orders. -/
theorem publish_cases (hboth : ∀ subscriber, subscriber ∈ bus.order) (nodeId : NodeId)
    (frame : Bytes) : ∃ other, owner frame ≠ other ∧
      (publish bus nodeId frame = [⟨owner frame, nodeId, frame⟩, ⟨other, nodeId, frame⟩] ∨
        publish bus nodeId frame = [⟨other, nodeId, frame⟩, ⟨owner frame, nodeId, frame⟩]) := by
  -- Both subscribe and no one subscribes twice, so the order is one of two.
  have horder : bus.order = [.encapsulation, .securityS2Inbound] ∨
      bus.order = [.securityS2Inbound, .encapsulation] := by
    have hperm : bus.order.Perm [.encapsulation, .securityS2Inbound] :=
      (List.perm_ext_iff_of_nodup bus.nodup (by decide)).mpr fun subscriber =>
        ⟨fun _ => by cases subscriber <;> simp, fun _ => hboth subscriber⟩
    obtain ⟨first, second, horder⟩ := List.length_eq_two.mp hperm.length_eq
    have hnodup := bus.nodup
    rw [horder] at hnodup ⊢
    cases first <;> cases second <;> simp at hnodup ⊢
  -- Whichever comes first, one of the two owns the frame and the other passes it over.
  unfold publish
  cases howner : owner frame with
  | encapsulation =>
    refine ⟨.securityS2Inbound, Subscriber.noConfusion, ?_⟩
    rcases horder with h | h <;> rw [h]
    · exact Or.inl rfl
    · exact Or.inr rfl
  | securityS2Inbound =>
    refine ⟨.encapsulation, Subscriber.noConfusion, ?_⟩
    rcases horder with h | h <;> rw [h]
    · exact Or.inr rfl
    · exact Or.inl rfl

/-- A delivery to the subscriber that the frame is not for. -/
theorem step_other {other : Subscriber} (h : owner frame ≠ other) (layers : Layers) (d : Draws) :
    (machine ssl ssl2 bus).step { state := layers, agenda := ⟨other, nodeId, frame⟩ :: rest }
        (.work d) = ({ state := layers, agenda := rest }, []) := by
  have hnothing : handle ssl ssl2 layers ⟨other, nodeId, frame⟩ d = (layers, []) :=
    handle_not_owned layers d h
  rw [Dispatcher.step_work _ rfl]
  simp only [machine, hnothing, List.flatMap_nil, List.map_nil, List.nil_append]

/-- A delivery to the subscriber that takes a wrapping off. -/
theorem step_owner {layers' : Layers} {d : Draws}
    (h : Republishes ssl ssl2 layers layers' nodeId frame inner d) :
    (machine ssl ssl2 bus).step
        { state := layers, agenda := ⟨owner frame, nodeId, frame⟩ :: rest } (.work d) =
      ({ state := layers', agenda := publish bus nodeId inner ++ rest },
        [⟨nodeId, frame, inner⟩]) := by
  rw [Dispatcher.step_work _ rfl]
  unfold Republishes at h
  simp only [machine, h, List.flatMap_cons, List.flatMap_nil, List.map_cons, List.map_nil,
    List.append_nil]

/-- A delivery of a plain command leaves the layers and republishes nothing. -/
theorem step_plain {ccData : Bytes} (hplain : Plain ccData) (subscriber : Subscriber)
    (layers : Layers) (d : Draws) :
    (machine ssl ssl2 bus).step { state := layers, agenda := ⟨subscriber, nodeId, ccData⟩ :: rest }
        (.work d) = ({ state := layers, agenda := rest }, []) := by
  have howner : owner ccData = .encapsulation := if_neg hplain.1
  cases subscriber with
  | securityS2Inbound => exact step_other (by rw [howner]; exact Subscriber.noConfusion) layers d
  | encapsulation =>
    have hnothing : handle ssl ssl2 layers ⟨.encapsulation, nodeId, ccData⟩ d = (layers, []) := by
      unfold handle Unwrap.onApplicationCommand
      dsimp only
      split
      · rfl
      · rw [if_neg hplain.2.2.1, if_neg hplain.2.1, if_neg hplain.2.2.2]
        rfl
    rw [Dispatcher.step_work _ rfl]
    simp only [machine, hnothing, List.flatMap_nil, List.map_nil, List.nil_append]

/-- The runs of the cascade that deliver and nothing else. -/
theorem run_nested (hofb : ssl.OfbKeystream) (hccm : ssl2.CcmInverse)
    (hboth : ∀ subscriber, subscriber ∈ bus.order) {ccData : Bytes} (hne : ccData ≠ [])
    (hplain : Plain ccData) (h : Listens ssl2 sender layers wrappings draws)
    (rest : List Delivery) (works : List Draws)
    (hworks : works.length = 2 * (wrappings.length + 1)) (hsubset : works ⊆ draws) :
    ∃ layers', exec (machine ssl ssl2 bus).step
        { state := layers
          agenda := publish bus sender.nodeId (wrapAll ssl ssl2 sender wrappings ccData) ++ rest }
        (works.map .work) = { state := layers', agenda := rest } ∧
      emitted (machine ssl ssl2 bus).step
        { state := layers
          agenda := publish bus sender.nodeId (wrapAll ssl ssl2 sender wrappings ccData) ++ rest }
        (works.map .work) = unwrapHops ssl ssl2 sender ccData wrappings ∧
      Unwrapped ssl2 sender layers layers' wrappings := by
  -- Each wrapping costs two deliveries: one to the handler that takes it off, one to the other.
  induction wrappings generalizing layers works rest with
  | nil =>
    obtain ⟨other, -, hpublish⟩ := publish_cases hboth sender.nodeId ccData
    obtain ⟨d, d', rfl⟩ := List.length_eq_two.mp hworks
    refine ⟨layers, ?_, ?_, unwrapped_nil layers⟩ <;>
      rcases hpublish with hpublish | hpublish <;>
      simp only [wrapAll, List.foldr_nil, hpublish, List.cons_append, List.nil_append,
        List.map_cons, List.map_nil, exec_cons, exec_nil, emitted, step_plain hplain,
        List.append_nil, unwrapHops]
  | cons wrapping wrappings ih =>
    obtain ⟨inner, hinner⟩ : ∃ inner, inner = wrapAll ssl ssl2 sender wrappings ccData := ⟨_, rfl⟩
    -- What is within a wrapping is never empty, so it can be republished.
    have hne' : inner ≠ [] := by
      rw [hinner]
      refine wrapAll_ne_nil hne fun hpos => (h.channel ?_).2.up
      rw [List.countP_cons]
      omega
    obtain ⟨d, others, rfl⟩ := List.exists_cons_of_length_eq_add_one hworks
    have hlength : others.length = 2 * (wrappings.length + 1) + 1 := by
      simpa [Nat.mul_add, Nat.add_assoc] using hworks
    have hframe : wrapAll ssl ssl2 sender (wrapping :: wrappings) ccData =
        wrap ssl ssl2 sender wrapping inner := by
      rw [hinner]
      rfl
    obtain ⟨other, hother, hpublish⟩ := publish_cases hboth sender.nodeId
      (wrap ssl ssl2 sender wrapping inner)
    have hhops : unwrapHops ssl ssl2 sender ccData (wrapping :: wrappings) =
        ⟨sender.nodeId, wrap ssl ssl2 sender wrapping inner, inner⟩ ::
          unwrapHops ssl ssl2 sender ccData wrappings := by
      rw [← hframe, hinner]
      rfl
    rw [hframe, hhops]
    rcases hpublish with hpublish | hpublish
    -- The owner subscribed first.
    · -- The inner command is delivered before the other subscriber gets the frame.
      obtain ⟨layers₁, hrepublishes, hlistens, hunwrapped⟩ :=
        h.peel hofb hccm hne' (hsubset List.mem_cons_self)
      obtain ⟨mid, last, rfl⟩ : ∃ mid last, others = mid ++ [last] := by
        rcases List.eq_nil_or_concat others with hnil | hconcat
        · rw [hnil] at hlength
          cases hlength
        · simpa using hconcat
      have hmid : mid.length = 2 * (wrappings.length + 1) := by simpa using hlength
      obtain ⟨layers', hexec, hemitted, hrest⟩ := ih hlistens
        (⟨other, sender.nodeId, wrap ssl ssl2 sender wrapping inner⟩ :: rest) mid hmid
        fun x hx => hsubset (List.mem_cons_of_mem _ (List.mem_append_left _ hx))
      rw [← hinner] at hexec hemitted
      refine ⟨layers', ?_, ?_, hunwrapped.cons hrest h.single⟩
      · rw [hpublish, List.cons_append, List.map_cons, exec_cons, step_owner hrepublishes,
          List.map_append, exec_append, List.cons_append, List.nil_append, hexec]
        simp only [List.map_cons, List.map_nil, exec_cons, exec_nil, step_other hother]
      · rw [hpublish, List.cons_append, List.map_cons, emitted, step_owner hrepublishes,
          List.map_append, emitted_append]
        simp only [List.cons_append, List.nil_append, hexec, hemitted, List.map_cons,
          List.map_nil, emitted, step_other hother, List.append_nil]
    -- The owner subscribed second: the other has passed the frame over when the inner command is
    -- published.
    · obtain ⟨d', mid, rfl⟩ := List.exists_cons_of_length_eq_add_one hlength
      have hmid : mid.length = 2 * (wrappings.length + 1) := by simpa using hlength
      obtain ⟨layers₁, hrepublishes, hlistens, hunwrapped⟩ :=
        h.peel hofb hccm hne' (d := d') (hsubset (by simp))
      obtain ⟨layers', hexec, hemitted, hrest⟩ := ih hlistens rest mid hmid
        fun x hx => hsubset (List.mem_cons_of_mem _ (List.mem_cons_of_mem _ hx))
      rw [← hinner] at hexec hemitted
      refine ⟨layers', ?_, ?_, hunwrapped.cons hrest h.single⟩
      · rw [hpublish, List.cons_append, List.map_cons, exec_cons, step_other hother,
          List.cons_append, List.nil_append, List.map_cons, exec_cons, step_owner hrepublishes,
          hexec]
      · rw [hpublish, List.cons_append, List.map_cons, emitted, step_other hother,
          List.cons_append, List.map_cons, emitted, step_owner hrepublishes]
        simp only [List.cons_append, List.nil_append, hemitted]

variable (ssl ssl2 bus) in
/-- With nothing on the agenda, further work changes nothing. -/
theorem run_idle (layers : Layers) (works : List Draws) :
    exec (machine ssl ssl2 bus).step { state := layers, agenda := [] } (works.map .work) =
        { state := layers, agenda := [] } ∧
      emitted (machine ssl ssl2 bus).step { state := layers, agenda := [] } (works.map .work) =
        [] := by
  induction works with
  | nil => exact ⟨rfl, rfl⟩
  | cons d works ih => exact ⟨ih.1, ih.2⟩

/-- A command in any wrappings, at most one of which is S2, comes out of the cascade: the wrappings
come off one by one, the outermost first, in as many hops as there are, and then nothing is left to
deliver; the nonces that the wrappings name are spent and no others, and the S2 channel is up on
both sides. -/
theorem nesting_unwraps (hofb : ssl.OfbKeystream) (hccm : ssl2.CcmInverse) (bus : Bus)
    (hboth : ∀ subscriber, subscriber ∈ bus.order) (ccData : Bytes) (hne : ccData ≠ [])
    (hplain : Plain ccData) (h : Listens ssl2 sender layers wrappings draws)
    (hdraws : 2 * (wrappings.length + 1) ≤ draws.length) :
    let start := begin bus layers sender.nodeId (wrapAll ssl ssl2 sender wrappings ccData)
    let last := exec (machine ssl ssl2 bus).step start (draws.map .work)
    emitted (machine ssl ssl2 bus).step start (draws.map .work) =
        unwrapHops ssl ssl2 sender ccData wrappings ∧
      last.agenda = [] ∧ Unwrapped ssl2 sender layers last.state wrappings := by
  intro start last
  obtain ⟨layers', hexec, hemitted, hunwrapped⟩ := run_nested hofb hccm hboth hne
    hplain h [] (draws.take (2 * (wrappings.length + 1))) (by simpa using hdraws)
    (List.take_subset _ _)
  rw [List.append_nil] at hexec hemitted
  obtain ⟨hidle, hquiet⟩ := run_idle ssl ssl2 bus layers'
    (draws.drop (2 * (wrappings.length + 1)))
  have hsplit : draws.map (Move.work (ε := Empty) (ν := Empty) (υ := Change)) =
      (draws.take (2 * (wrappings.length + 1))).map .work ++
        (draws.drop (2 * (wrappings.length + 1))).map .work := by
    rw [← List.map_append, List.take_append_drop]
  have hlast : last = { state := layers', agenda := [] } := by
    rw [← hidle, ← hexec, ← exec_append, ← hsplit]
    rfl
  refine ⟨?_, by rw [hlast], by rw [hlast]; exact hunwrapped⟩
  have hstart : emitted (machine ssl ssl2 bus).step start (draws.map .work) =
      unwrapHops ssl ssl2 sender ccData wrappings ++ [] := by
    rw [hsplit, emitted_append, ← hquiet, ← hemitted, ← hexec]
    rfl
  rw [hstart, List.append_nil]

/-- A lock with a channel that is up, and the controller's nonces for it. -/
def sampleSender : Sender where
  nodeId := 6
  controllerNodeId := 1
  networkKey := Vector.replicate 16 7
  channel :=
    { config :=
        { classKey := (S2.KeyDerivation.networkKeyExpand .standIn (Vector.replicate 16 5)).keyCcm
          personalization :=
            (S2.KeyDerivation.networkKeyExpand .standIn (Vector.replicate 16 5)).personalization
          homeId := Vector.replicate 4 0
          ourNodeId := 6
          peerNodeId := 1 }
      span := some (.instantiate .standIn (Vector.replicate 16 8) (Vector.replicate 16 9)
        (Vector.replicate _ 0)) }

/-- The controller of it. -/
def sampleLayers : Layers where
  unwrap := { controllerNodeId := 1 }
  nonces := ({} : S0.NonceTable).generate 6 100 (Vector.replicate 8 3) |>.generate 6 200
    (Vector.replicate 8 4)
  networkKey := some (Vector.replicate 16 7)
  transport :=
    { registry := { nodes := Function.update (fun _ => none) 6 (some .s2Authenticated) }
      keys := some fun _ => Vector.replicate 16 5
      controllerNodeId := 1
      manager := { peers := fun _ => { span := sampleSender.channel.span } } }

/-- DOOR_LOCK_OPERATION_REPORT, wrapped six times. -/
def sampleWrappings : List Wrapping :=
  [.crc16, .s0 (Vector.replicate 8 1) (Vector.replicate 8 4), .s2 (Vector.replicate 16 0), .crc16,
    .s0 (Vector.replicate 8 2) (Vector.replicate 8 3), .crc16]

/-- What the deliveries draw. -/
def sampleDraws : List Draws := List.replicate 14 ⟨300, Vector.replicate 16 0⟩

/-- The S2 side is called first. -/
def sampleBus : Bus := ⟨[.securityS2Inbound, .encapsulation], by decide⟩

/-- It comes out after six hops, and the nonces are spent. -/
theorem nesting_unwraps_sample :
    let frame := wrapAll .standIn .standIn sampleSender sampleWrappings [0x62, 0x03, 0xFF]
    let last := exec (machine .standIn .standIn sampleBus).step
      (begin sampleBus sampleLayers sampleSender.nodeId frame) (sampleDraws.map .work)
    last.agenda = [] ∧ last.state.nonces.entries sampleSender.nodeId 4 = none := by
  have hlistens : Listens .standIn sampleSender sampleLayers sampleWrappings sampleDraws := by
    refine ⟨rfl, fun _ => rfl, fun nonce hmem => ?_, by decide, by decide, fun _ => ⟨?_, ?_⟩⟩
    · have hnonce : nonce = Vector.replicate 8 4 ∨ nonce = Vector.replicate 8 3 := by
        simpa [sampleWrappings, Wrapping.receiverNonce?, eq_comm] using hmem
      rcases hnonce with rfl | rfl
      · exact ⟨200, rfl, fun d hd => by rw [List.eq_of_mem_replicate hd]; decide⟩
      · exact ⟨100, rfl, fun d hd => by rw [List.eq_of_mem_replicate hd]; decide⟩
    · exact Option.some_ne_none _
    · exact ⟨⟨rfl, rfl, rfl, rfl, rfl⟩, rfl, Option.some_ne_none _⟩
  obtain ⟨-, hagenda, hunwrapped⟩ := nesting_unwraps S0.OpenSsl.standIn_ofbKeystream
    S2.OpenSsl.standIn_ccmInverse sampleBus
    (fun subscriber => by cases subscriber <;> simp [sampleBus]) [0x62, 0x03, 0xFF] (by decide)
    (by decide) hlistens (by simp [sampleWrappings, sampleDraws])
  refine ⟨hagenda, ?_⟩
  rw [hunwrapped.nonces, if_pos ⟨rfl, by decide⟩]

end Unwrap

end Cascade

end Zwaved.CcTranslator
