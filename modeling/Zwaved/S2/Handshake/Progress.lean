import Zwaved.S2.Handshake.Controller

/-!
# A step of the handshake

Whatever happens next, the handshake stays on its way (`Going`). A frame that is delivered takes one
off the deliveries that are left (`work`), a node that asks again adds one, and the class of the
node is recorded by the step that completes the handshake. `Progress` is all of this, and
`progress_step` that every orderly step is one.
-/

namespace Zwaved.S2

open Reactive

namespace Handshake

variable (ssl : OpenSsl)

/-- The deliveries that are left when the node has sent nothing yet at its stage. -/
def rank : JoiningNode.Stage → ℕ → ℕ
  | .awaitKexGet, requests => 10 + 6 * requests
  | .awaitKexSet, requests => 8 + 6 * requests
  | .awaitPublicKey, requests => 6 + 6 * requests
  | .awaitTempNonce, requests => 4 + 6 * requests
  | .awaitKexReportEcho, requests => 2 + 6 * requests
  | .awaitKey, requests => 6 + 6 * requests
  | .awaitClassNonce, requests => 4 + 6 * requests
  | .awaitTransferEnd, requests => 2 + 6 * requests
  | .joined, _ => 0

/-- The deliveries that are left. -/
def work (h : Handshake) : ℕ :=
  rank h.node.stage h.node.requests.length + h.toController.length

section Ends

variable (keySet : NetworkKeys.KeySet) (keyPair : KeyPair) (node : JoiningNode)
  (shared : SharedSecret)

/-- The handshake is somewhere on its way. -/
def Going (h : Handshake) : Prop :=
  ∃ session channel classChannel, Shows node h.controller session channel classChannel ∧
    Position ssl keySet keyPair node shared session channel classChannel h.node h.toNode
      h.toController

/-- What has been recorded of the node, by whether it still has a session. -/
def shownOf : Option Session → List BootstrapOutput
  | none => recorded node
  | some _ => []

/-- What has been recorded of the node. -/
def shown (h : Handshake) : List BootstrapOutput :=
  shownOf node (h.controller.sessions node.nodeId)

/-- A step that keeps the handshake going, uses up work if it delivers a frame, and records the node
when the handshake is complete. -/
structure Progress (h : Handshake) (happening : Happening) : Prop where
  /-- It goes on. -/
  going : Going ssl keySet keyPair node shared (step ssl (some keySet) h happening).1
  /-- The work. -/
  work : work (step ssl (some keySet) h happening).1 + (delivers ⟨h, happening⟩).toNat ≤
    work h + (asksAgain ⟨h, happening⟩).toNat
  /-- The records. -/
  shown : shown node (step ssl (some keySet) h happening).1 =
    shown node h ++ (step ssl (some keySet) h happening).2.filter
      (BootstrapOutput.recordsFor node.nodeId)

variable {ssl keySet keyPair node shared} {controller : Bootstrap} {n : JoiningNode}
  {toNode toController : List Bytes} {session session' : Option Session}
  {channel channel' classChannel classChannel' : Peer}

/-- In every position of the handshake the joining node is the one that started, with its id and its
key pair. -/
theorem Position.nodeId (h : Position ssl keySet keyPair node shared session channel classChannel n
    toNode toController) : n.nodeId = node.nodeId ∧ n.keyPair = node.keyPair := by
  cases h with
  | kexGet | kexReport | kexSet | publicKey | parkedKey | parkedGets | agreedKey | agreedGets
  | nonceReport | kexSetEcho | kexReportEcho => exact ⟨rfl, rfl⟩
  | keyGet _ hn | keyReport _ hn | classNonceGet _ hn | classNonceReport _ hn | keyVerify _ hn
  | transferEnd _ hn | requestComplete _ hn | complete hn => exact ⟨hn.nodeId, hn.keyPair⟩

/-- A step that leaves the system as it is and delivers nothing is progress: it goes on and uses up
no work. -/
theorem Progress.idle {h : Handshake} (hgoing : Going ssl keySet keyPair node shared h)
    {happening : Happening} (hstep : step ssl (some keySet) h happening = (h, []))
    (hdelivers : delivers ⟨h, happening⟩ = false) :
    Progress ssl keySet keyPair node shared h happening := by
  refine ⟨?_, ?_, ?_⟩
  · rw [hstep]
    exact hgoing
  · rw [hstep, hdelivers]
    exact Nat.le_add_right _ _
  · rw [hstep]
    exact (List.append_nil _).symm

/-- Delivering a frame to the controller is progress, if what it answers leads to another position
and records what that position shows. -/
theorem Progress.of_controller {frame : Bytes} {entropy : EntropyInput}
    {s' : Bootstrap} {outputs : List BootstrapOutput}
    (hn : n.nodeId = node.nodeId) (hshows : Shows node controller session channel classChannel)
    (hstep : controller.step ssl (some keySet) (.applicationCommand node.nodeId frame entropy) =
      (s', outputs))
    (hshows' : Shows node s' session' channel' classChannel')
    (hposition : Position ssl keySet keyPair node shared session' channel' classChannel' n
      (toNode ++ outputs.filterMap (BootstrapOutput.frameFor node.nodeId)) toController)
    (hrecords : shownOf node session' =
      shownOf node session ++ outputs.filter (BootstrapOutput.recordsFor node.nodeId)) :
    Progress ssl keySet keyPair node shared
      { controller, node := n, toNode, toController := frame :: toController }
      (.toController entropy) := by
  -- The frame is one of this node, so the controller's part of the step is the given one.
  have hresult : step ssl (some keySet)
      { controller, node := n, toNode, toController := frame :: toController }
      (.toController entropy) =
      ({ controller := s', node := n,
         toNode := toNode ++ outputs.filterMap (BootstrapOutput.frameFor node.nodeId),
         toController }, outputs) := by
    unfold step bootstrap
    dsimp only
    rw [hn, hstep]
  refine ⟨?_, ?_, ?_⟩
  · rw [hresult]
    exact ⟨session', channel', classChannel', hshows', hposition⟩
  · rw [hresult]
    exact Nat.le_refl _
  -- What is shown of the node is told by its session, and the outputs that record something are
  -- what that shows more.
  · rw [hresult]
    unfold Handshake.shown
    dsimp only
    rw [hshows'.session, hshows.session, hrecords]

/-- Delivering a frame to the node is progress, if what it answers leads to another position and
uses up its work. -/
theorem Progress.of_node {frame : Bytes} {sei : EntropyInput} {n' : JoiningNode}
    {frames : List Bytes} (hshows : Shows node controller session channel classChannel)
    (hreact : n.onFrame ssl frame sei = (n', frames))
    (hposition : Position ssl keySet keyPair node shared session channel classChannel n' toNode
      (toController ++ frames))
    (hwork : rank n'.stage n'.requests.length + frames.length + 1 ≤
      rank n.stage n.requests.length) :
    Progress ssl keySet keyPair node shared
      { controller, node := n, toNode := frame :: toNode, toController } (.toNode sei) := by
  -- The controller takes no part in this step.
  have hresult : step ssl (some keySet)
      { controller, node := n, toNode := frame :: toNode, toController } (.toNode sei) =
      ({ controller, node := n', toNode, toController := toController ++ frames }, []) := by
    unfold step hear
    dsimp only
    rw [hreact]
  refine ⟨?_, ?_, ?_⟩
  · rw [hresult]
    exact ⟨session, channel, classChannel, hshows, hposition⟩
  -- The frame is gone from those on their way to the node, and the rank pays for those that it
  -- answers with.
  · rw [hresult]
    simp only [Handshake.work, delivers, asksAgain, List.length_append, List.isEmpty_cons, Bool.not_false,
      Bool.toNat_true, Bool.toNat_false]
    omega
  · rw [hresult]
    exact (List.append_nil _).symm

/-- The node requests its next key, or ends the transfer. -/
theorem position_requestNext (hccm : ssl.CcmInverse) {stage : JoiningNode.Stage}
    (hn : Requesting keySet node n stage []) (hjoined : Joined n.tempChannel channel)
    (hconfig : channel.config = tempConfig ssl keyPair node shared) (sei : EntropyInput)
    (installing : UInt8 × KeyDerivation.NetworkKeys) (classChannel : Peer) :
    ∃ n' frame, n.requestNext ssl sei = (n', [frame]) ∧
      Position ssl keySet keyPair node shared
        (some (secured ssl keyPair node shared installing .awaitNetworkKeyGet)) channel classChannel
        n' [] [frame] ∧
      rank n'.stage n'.requests.length = 6 * n.requests.length := by
  obtain ⟨done, hdone, hinstalled⟩ := hn.requests
  unfold JoiningNode.requestNext JoiningNode.sendEncrypted
  -- The node asks for the next key, or says that it has no more requests. Either frame is the next
  -- one on the temporary channel, which the controller's half opens.
  cases hrequests : n.requests with
  | nil =>
    obtain ⟨frame, hsend, hcarries⟩ :=
      hjoined.conveys_next hccm (KeyInstall.encodeTransferEnd false true) sei
    rcases hresult : n.tempChannel.encrypt ssl (KeyInstall.encodeTransferEnd false true) sei
      with ⟨_ | sent, p⟩
    -- A channel that is up always encrypts.
    · rw [hresult] at hsend
      cases hsend
    · rw [hresult] at hsend hcarries
      obtain rfl := Option.some.inj hsend
      refine ⟨_, sent, rfl, .requestComplete hconfig ⟨hn.nodeId, hn.controllerNodeId, hn.homeId,
        hn.keyPair, rfl, done, ?_, hinstalled⟩ rfl hcarries, rfl⟩
      rw [hdone, hrequests]
  | cons bit requests =>
    obtain ⟨frame, hsend, hcarries⟩ := hjoined.conveys_next hccm (KeyInstall.encodeKeyGet bit) sei
    rcases hresult : n.tempChannel.encrypt ssl (KeyInstall.encodeKeyGet bit) sei with ⟨_ | sent, p⟩
    · rw [hresult] at hsend
      cases hsend
    · rw [hresult] at hsend hcarries
      obtain rfl := Option.some.inj hsend
      dsimp only
      rw [hresult]
      refine ⟨{ n with stage := .awaitKey, requests, tempChannel := p }, sent, rfl,
        .keyGet hconfig ⟨hn.nodeId, hn.controllerNodeId, hn.homeId, hn.keyPair, rfl, done, ?_,
          hinstalled⟩ hcarries, ?_⟩
      · rw [hdone, hrequests]
        rfl
      · simp only [rank, List.length_cons]
        omega

/-- A plaintext output to the node is one frame for it, and nothing recorded, if the outputs behind
it are neither. -/
theorem frames_of_plaintext (node : JoiningNode) (payload : Bytes) (outputs : List BootstrapOutput)
    (hquiet : ∀ out ∈ outputs,
      out.frameFor node.nodeId = none ∧ out.recordsFor node.nodeId = false) :
    (BootstrapOutput.sendPlaintext node.nodeId payload :: outputs).filterMap
        (BootstrapOutput.frameFor node.nodeId) = [payload] ∧
      (BootstrapOutput.sendPlaintext node.nodeId payload :: outputs).filter
        (BootstrapOutput.recordsFor node.nodeId) = [] := by
  have hframes : outputs.filterMap (BootstrapOutput.frameFor node.nodeId) = [] :=
    List.filterMap_eq_nil_iff.mpr fun out hout => (hquiet out hout).1
  have hrecords : outputs.filter (BootstrapOutput.recordsFor node.nodeId) = [] :=
    List.filter_eq_nil_iff.mpr fun out hout => by
      rw [(hquiet out hout).2]
      exact Bool.false_ne_true
  have hframe : (BootstrapOutput.sendPlaintext node.nodeId payload).frameFor node.nodeId =
      some payload := by simp [BootstrapOutput.frameFor]
  refine ⟨?_, ?_⟩
  · rw [List.filterMap_cons_some hframe, hframes]
  · rw [List.filter_cons_of_neg (by simp [BootstrapOutput.recordsFor]), hrecords]

/-- An encrypted output to the node is one frame for it, and nothing recorded. -/
theorem frames_of_encrypted (node : JoiningNode) (inner frame : Bytes) :
    [BootstrapOutput.sendEncrypted node.nodeId inner frame].filterMap
        (BootstrapOutput.frameFor node.nodeId) = [frame] ∧
      [BootstrapOutput.sendEncrypted node.nodeId inner frame].filter
        (BootstrapOutput.recordsFor node.nodeId) = [] := by
  simp [BootstrapOutput.frameFor, BootstrapOutput.recordsFor]

section Steps

variable {s : Bootstrap} (hccm : ssl.CcmInverse)
  (hagrees : Agrees ssl keySet s keyPair node shared)

include hccm hagrees

/-- A frame is delivered to the controller, or there is none. -/
theorem progress_toController (hshows : Shows node controller session channel classChannel)
    (hposition : Position ssl keySet keyPair node shared session channel classChannel n toNode
      toController) (entropy : EntropyInput) :
    Progress ssl keySet keyPair node shared { controller, node := n, toNode, toController }
      (.toController entropy) := by
  have hn := hposition.nodeId.1
  -- In the first nine positions it is the node's turn or the operator's, and nothing is on its way
  -- to the controller. In each of the others the frame is the one that the session's phase waits
  -- for.
  cases hposition with
  | kexGet => exact .idle ⟨_, _, _, hshows, .kexGet⟩ rfl rfl
  | kexSet => exact .idle ⟨_, _, _, hshows, .kexSet⟩ rfl rfl
  | parkedKey hdsk => exact .idle ⟨_, _, _, hshows, .parkedKey hdsk⟩ rfl rfl
  | agreedKey hconfig => exact .idle ⟨_, _, _, hshows, .agreedKey hconfig⟩ rfl rfl
  | kexReportEcho hconfig hframe =>
    exact .idle ⟨_, _, _, hshows, .kexReportEcho hconfig hframe⟩ rfl rfl
  | keyReport hconfig hn' hframe =>
    exact .idle ⟨_, _, _, hshows, .keyReport hconfig hn' hframe⟩ rfl rfl
  | classNonceReport hconfig hn' hjoined hinstalling hclass hclassConfig hrei =>
    exact .idle ⟨_, _, _, hshows,
      .classNonceReport hconfig hn' hjoined hinstalling hclass hclassConfig hrei⟩ rfl rfl
  | transferEnd hconfig hn' hinstalling hframe =>
    exact .idle ⟨_, _, _, hshows, .transferEnd hconfig hn' hinstalling hframe⟩ rfl rfl
  | complete hn' hnone => exact .idle ⟨_, _, _, hshows, .complete hn' hnone⟩ rfl rfl
  | kexReport =>
    obtain ⟨s', hstep, hshows'⟩ := hshows.kexReport (some keySet) entropy
      hagrees.granted
    obtain ⟨hframes, hrecords⟩ := frames_of_plaintext node
      (Kex.encodeSet (Bootstrap.kexSetFor (granted node))) [] (by simp)
    refine .of_controller hn hshows hstep hshows' ?_ ?_
    · rw [hframes]
      exact .kexSet
    · rw [hrecords]
      rfl
  | publicKey =>
    obtain ⟨s', outputs, channel', installing, hstep, hquiet, hnext⟩ :=
      hshows.publicKey (some keySet) entropy hagrees.ours
    obtain ⟨hframes, hrecords⟩ := frames_of_plaintext node (controllerKey keyPair) outputs hquiet
    -- With an authenticated class granted the operator has to confirm the key first, and otherwise
    -- the key agreement ends at once.
    rcases hnext with ⟨hdsk, hshows'⟩ | ⟨hconfig, hshows'⟩
    · refine .of_controller hn hshows hstep hshows' ?_ ?_
      · rw [hframes]
        exact .parkedKey hdsk
      · rw [hrecords]
        rfl
    · refine .of_controller hn hshows hstep hshows' ?_ ?_
      · rw [hframes]
        exact .agreedKey hconfig
      · rw [hrecords]
        rfl
  | @parkedGets _ _ p _ hdsk hp hgets =>
    cases toController with
    | nil => exact .idle ⟨_, _, _, hshows, .parkedGets hdsk hp hgets⟩ rfl rfl
    | cons get toController =>
      -- The node asks for its nonce while the operator is awaited: the session has no temporary
      -- channel yet and passes the frame over.
      obtain ⟨⟨sequenceNumber, rfl⟩, hrest⟩ := List.forall_mem_cons.mp hgets
      exact .of_controller hn hshows (hshows.nonceGet_ignored (Or.inl rfl) sequenceNumber) hshows
        (.parkedGets hdsk hp hrest) rfl
  | @agreedGets _ _ installing p _ hconfig hp hgets =>
    cases toController with
    | nil => exact .idle ⟨_, _, _, hshows, .agreedGets hconfig hp hgets⟩ rfl rfl
    | cons get toController =>
      -- The first NONCE_GET after the agreement opens the temporary channel.
      obtain ⟨⟨sequenceNumber, rfl⟩, hrest⟩ := List.forall_mem_cons.mp hgets
      obtain ⟨s', hstep, hshows'⟩ := hshows.tempNonceGet (some keySet) entropy
        sequenceNumber
      obtain ⟨hframes, hrecords⟩ := frames_of_plaintext node
        (nonceReport channel.txSequence entropy) [] (by simp)
      refine .of_controller hn hshows hstep hshows' ?_ ?_
      · rw [hframes]
        exact .nonceReport hconfig rfl hp hrest
      · rw [hrecords]
        rfl
  | @nonceReport _ _ installing p _ rei number hconfig hrei hp hgets =>
    cases toController with
    | nil => exact .idle ⟨_, _, _, hshows, .nonceReport hconfig hrei hp hgets⟩ rfl rfl
    | cons get toController =>
      -- A NONCE_GET that was sent during the wait and comes in late does nothing.
      obtain ⟨⟨sequenceNumber, rfl⟩, hrest⟩ := List.forall_mem_cons.mp hgets
      exact .of_controller hn hshows (hshows.nonceGet_ignored (Or.inr rfl) sequenceNumber) hshows
        (.nonceReport hconfig hrei hp hrest) rfl
  | @kexSetEcho _ _ installing p gets frame hconfig hframe hgets =>
    -- Late NONCE_GETs may be in front of the echo.
    cases gets with
    | nil =>
      obtain ⟨s', reply, channel', hstep, hconfig', hcarries, hshows'⟩ :=
        hshows.kexSetEcho (some keySet) entropy hccm hconfig hframe
      obtain ⟨hframes, hrecords⟩ := frames_of_encrypted node
        (Kex.encodeReport { node.report with echo := true }) reply
      refine .of_controller hn hshows hstep hshows' ?_ ?_
      · rw [hframes]
        exact .kexReportEcho hconfig' hcarries
      · rw [hrecords]
        rfl
    | cons get gets =>
      obtain ⟨⟨sequenceNumber, rfl⟩, hrest⟩ := List.forall_mem_cons.mp hgets
      exact .of_controller hn hshows (hshows.nonceGet_ignored (Or.inr rfl) sequenceNumber) hshows
        (.kexSetEcho hconfig hframe hrest) rfl
  | @keyGet _ _ installing _ bit frame hconfig hn' hframe =>
    obtain ⟨done, hdone, -⟩ := hn'.requests
    -- The node asks only for keys that were granted to it, and each bit of a grant stands for a
    -- class.
    obtain ⟨hbit, hclass⟩ := hagrees.requests bit (by rw [hdone]; simp)
    obtain ⟨s', reply, channel', hstep, hconfig', hcarries, hshows'⟩ :=
      hshows.keyGet entropy hccm hconfig hbit hclass hframe
    obtain ⟨hframes, hrecords⟩ := frames_of_encrypted node
      (KeyInstall.encodeKeyReport bit (keyFor keySet bit).key) reply
    refine .of_controller hn hshows hstep hshows' ?_ ?_
    · rw [hframes]
      exact .keyReport hconfig' hn' hcarries
    · rw [hrecords]
      rfl
  | @classNonceGet _ _ _ bit sequenceNumber hconfig hn' hjoined hinstalling hclass =>
    obtain ⟨s', classChannel', hstep, hclassConfig, hrei, hshows'⟩ :=
      hshows.classNonceGet (some keySet) entropy sequenceNumber
    obtain ⟨hframes, hrecords⟩ := frames_of_plaintext node (nonceReport 0 entropy) [] (by simp)
    refine .of_controller hn hshows hstep hshows' ?_ ?_
    · rw [hframes]
      exact .classNonceReport hconfig hn' hjoined hinstalling hclass hclassConfig hrei
    · rw [hrecords]
      rfl
  | @keyVerify _ _ _ bit frame hconfig hn' hjoined hinstalling hclassConfig hframe =>
    obtain ⟨s', reply, channel', classChannel', hstep, hconfig', hcarries, hshows'⟩ :=
      hshows.keyVerify (some keySet) entropy hccm hconfig hjoined hclassConfig
        hframe
    obtain ⟨hframes, hrecords⟩ := frames_of_encrypted node
      (KeyInstall.encodeTransferEnd true false) reply
    refine .of_controller hn hshows hstep hshows' ?_ ?_
    · rw [hframes]
      exact .transferEnd hconfig' hn' hinstalling hcarries
    · rw [hrecords]
      rfl
  | @requestComplete _ _ installing _ frame hconfig hn' hnone hframe =>
    obtain ⟨s', channel', hstep, hshows'⟩ :=
      hshows.requestComplete (some keySet) entropy hconfig hframe
    refine .of_controller hn hshows hstep hshows' ?_ ?_
    · exact .complete hn' hnone
    · simp [recorded, BootstrapOutput.recordsFor, shownOf]

omit hccm in
/-- The controller's key gives the node the temporary keys too. -/
theorem onPublicKey_chosen :
    ∃ p, (chosen node .awaitPublicKey).onPublicKey ssl keyPair.publicKey =
        ({ chosen node .awaitTempNonce with tempChannel := p }, [NonceSync.encodeNonceGet 0]) ∧
      Untouched p (tempConfig ssl keyPair node shared) := by
  refine ⟨((chosen node .awaitPublicKey).channel (tempKeys ssl keyPair node shared).keyCcm
    (tempKeys ssl keyPair node shared).personalization).nonceGet.2, ?_,
    ⟨rfl, rfl, rfl, rfl, rfl⟩, rfl⟩
  have htheirs : ssl.x25519 (chosen node .awaitPublicKey).keyPair.privateKey keyPair.publicKey =
      some shared := hagrees.theirs
  unfold JoiningNode.onPublicKey
  rw [htheirs]
  rfl

omit hccm hagrees in
/-- The controller's public key report decodes as its whole key. -/
theorem decode_controllerKey : PublicKey.decode (controllerKey keyPair) =
    some { includingNode := true, key := keyPair.publicKey } := by
  unfold controllerKey
  rw [PublicKey.decode_encode, blanked_none]

omit hagrees in
/-- A half that has got the REI of the other sends its first message. -/
theorem carries_accepted {p : Peer} {config : PeerConfig} (hp : Untouched p config)
    (hchannel : channel.config = config) {rei : EntropyInput} (hrei : channel.ourRei = some rei)
    (sequenceNumber : UInt8) (inner : Bytes) (sei : EntropyInput) :
    ∃ p' frame, (p.acceptNonceReport
        { sequenceNumber, sos := true, mos := false, rei := some rei }).encrypt ssl inner sei =
          (some frame, p') ∧ Conveys ssl p' channel inner frame := by
  have haccepted : p.acceptNonceReport
      { sequenceNumber, sos := true, mos := false, rei := some rei } =
        { p with peerRei := some rei } := rfl
  obtain ⟨frame, hsend, hcarries⟩ := conveys_first hccm
    (p := { p with peerRei := some rei }) (q := channel) (by rw [hchannel]; exact hp.config)
    hp.span rfl hrei inner sei
  rw [haccepted]
  exact ⟨_, frame, Prod.ext hsend rfl, hcarries⟩

/-- Delivering the next frame to the node is progress, by the position of the handshake, and so is
finding none. -/
theorem progress_toNode (hshows : Shows node controller session channel classChannel)
    (hposition : Position ssl keySet keyPair node shared session channel classChannel n toNode
      toController) (sei : EntropyInput) :
    Progress ssl keySet keyPair node shared { controller, node := n, toNode, toController }
      (.toNode sei) := by
  -- Where it is the controller's turn or the operator's, nothing is on its way to the node.
  cases hposition with
  | kexReport => exact .idle ⟨_, _, _, hshows, .kexReport⟩ rfl rfl
  | publicKey => exact .idle ⟨_, _, _, hshows, .publicKey⟩ rfl rfl
  | parkedGets hdsk hp hgets =>
    exact .idle ⟨_, _, _, hshows, .parkedGets hdsk hp hgets⟩ rfl rfl
  | agreedGets hconfig hp hgets =>
    exact .idle ⟨_, _, _, hshows, .agreedGets hconfig hp hgets⟩ rfl rfl
  | kexSetEcho hconfig hframe hgets =>
    exact .idle ⟨_, _, _, hshows, .kexSetEcho hconfig hframe hgets⟩ rfl rfl
  | keyGet hconfig hn hframe => exact .idle ⟨_, _, _, hshows, .keyGet hconfig hn hframe⟩ rfl rfl
  | classNonceGet hconfig hn hjoined hinstalling hclass =>
    exact .idle ⟨_, _, _, hshows, .classNonceGet hconfig hn hjoined hinstalling hclass⟩ rfl rfl
  | keyVerify hconfig hn hjoined hinstalling hclassConfig hframe =>
    exact .idle ⟨_, _, _, hshows,
      .keyVerify hconfig hn hjoined hinstalling hclassConfig hframe⟩ rfl rfl
  | requestComplete hconfig hn hnone hframe =>
    exact .idle ⟨_, _, _, hshows, .requestComplete hconfig hn hnone hframe⟩ rfl rfl
  | complete hn hnone => exact .idle ⟨_, _, _, hshows, .complete hn hnone⟩ rfl rfl
  | kexGet =>
    -- The node is at its first stage, where a KEX_GET makes it report.
    have hreact : node.onFrame ssl Kex.encodeGet sei =
        ({ node with stage := .awaitKexSet }, [Kex.encodeReport node.report]) := by
      unfold JoiningNode.onFrame
      rw [hagrees.stage]
      exact if_pos rfl
    refine .of_node hshows hreact .kexReport ?_
    rw [hagrees.stage]
    simp only [rank, List.length_singleton]
    omega
  | kexSet =>
    have hreact : ({ node with stage := .awaitKexSet } : JoiningNode).onFrame ssl
        (Kex.encodeSet (Bootstrap.kexSetFor (granted node))) sei =
          (chosen node .awaitPublicKey, [nodeKey node]) := by
      unfold JoiningNode.onFrame
      dsimp only
      rw [Kex.decodeSet_encodeSet]
      rfl
    refine .of_node hshows hreact .publicKey ?_
    simp only [rank, chosen, List.length_singleton]
    omega
  | parkedKey hdsk =>
    -- The node shares the secret of the controller's key as soon as it has that key, whether the
    -- operator has confirmed its own or not.
    obtain ⟨p, hkey, hp⟩ := onPublicKey_chosen hagrees
    have hreact : (chosen node .awaitPublicKey).onFrame ssl (controllerKey keyPair) sei =
        ({ chosen node .awaitTempNonce with tempChannel := p }, [NonceSync.encodeNonceGet 0]) := by
      rw [← hkey]
      unfold JoiningNode.onFrame
      dsimp only [chosen]
      rw [decode_controllerKey]
    refine .of_node hshows hreact (.parkedGets hdsk hp ?_) ?_
    · exact List.forall_mem_singleton.mpr ⟨0, rfl⟩
    · simp only [rank, chosen, List.length_singleton]
      omega
  | agreedKey hconfig =>
    obtain ⟨p, hkey, hp⟩ := onPublicKey_chosen hagrees
    have hreact : (chosen node .awaitPublicKey).onFrame ssl (controllerKey keyPair) sei =
        ({ chosen node .awaitTempNonce with tempChannel := p }, [NonceSync.encodeNonceGet 0]) := by
      rw [← hkey]
      unfold JoiningNode.onFrame
      dsimp only [chosen]
      rw [decode_controllerKey]
    refine .of_node hshows hreact (.agreedGets hconfig hp ?_) ?_
    · exact List.forall_mem_singleton.mpr ⟨0, rfl⟩
    · simp only [rank, chosen, List.length_singleton]
      omega
  | @nonceReport _ _ installing p _ rei sequenceNumber hconfig hrei hp hgets =>
    -- The REI of the report is the one that the controller's half remembers, so the SPAN that the
    -- node starts with it is the one that the controller will start.
    obtain ⟨p', frame, hsend, hcarries⟩ := carries_accepted hccm hp hconfig hrei sequenceNumber
      (Kex.encodeSet { Bootstrap.kexSetFor (granted node) with echo := true }) sei
    have hreact : ({ chosen node .awaitTempNonce with tempChannel := p } : JoiningNode).onFrame ssl
        (nonceReport sequenceNumber rei) sei =
          ({ chosen node .awaitKexReportEcho with tempChannel := p' }, [frame]) := by
      unfold JoiningNode.onFrame nonceReport
      dsimp only [chosen]
      rw [NonceSync.decodeNonceReport_encodeNonceReport]
      unfold JoiningNode.onTempNonce JoiningNode.sendEncrypted
      dsimp only
      rw [hsend]
    refine .of_node hshows hreact (.kexSetEcho hconfig hcarries hgets) ?_
    simp only [rank, chosen, List.length_singleton]
    omega
  | @kexReportEcho _ _ installing p frame hconfig hframe =>
    -- The confirmation comes over the temporary channel, and the node goes on to ask for its first
    -- key.
    have hn : Requesting keySet node
        { chosen node .awaitKexReportEcho with tempChannel := (p.receive ssl frame).2 }
        .awaitKexReportEcho [] :=
      ⟨rfl, rfl, rfl, rfl, rfl, [], rfl, hagrees.installed⟩
    obtain ⟨n', sent, hnext, hposition', hrank⟩ :=
      position_requestNext hccm hn hframe.joined.symm hconfig sei installing classChannel
    have hreact : ({ chosen node .awaitKexReportEcho with tempChannel := p } : JoiningNode).onFrame
        ssl frame sei = (n', [sent]) := by
      rw [← hnext]
      unfold JoiningNode.onFrame JoiningNode.receive
      dsimp only [chosen]
      rw [hframe.received, Option.bind_some, Kex.decodeReport_encodeReport, if_pos rfl]
    refine .of_node hshows hreact hposition' ?_
    rw [hrank]
    simp only [rank, chosen, List.length_singleton]
    omega
  | @keyReport _ _ _ bit frame hconfig hn hframe =>
    -- The key comes over the temporary channel. The channel under it is set up, and its SPAN is
    -- still to be agreed on.
    have hreceived : (KeyInstall.decodeKeyReport
        (KeyInstall.encodeKeyReport bit (keyFor keySet bit).key)) = some (keyFor keySet bit) :=
      KeyInstall.decodeKeyReport_encodeKeyReport bit _
    have hreact : n.onFrame ssl frame sei =
        ({ n with tempChannel := (n.tempChannel.receive ssl frame).2 } : JoiningNode).onKey ssl
          (keyFor keySet bit) := by
      unfold JoiningNode.onFrame JoiningNode.receive
      rw [hn.stage]
      dsimp only
      rw [hframe.received, Option.bind_some, hreceived]
    refine .of_node hshows hreact (.classNonceGet hconfig ⟨hn.nodeId, hn.controllerNodeId,
      hn.homeId, hn.keyPair, rfl, hn.requests⟩ hframe.joined.symm rfl ⟨?_, rfl⟩) ?_
    · exact ⟨rfl, rfl, hn.homeId.symm, hn.controllerNodeId.symm, hn.nodeId.symm⟩
    · rw [hn.stage]
      simp only [rank, List.length_singleton]
      omega
  | @classNonceReport _ _ _ bit rei sequenceNumber hconfig hn hjoined hinstalling hclass
      hclassConfig hrei =>
    -- As on the temporary channel, the REI starts a SPAN that the controller can start too.
    obtain ⟨p', frame, hsend, hcarries⟩ := carries_accepted hccm hclass hclassConfig hrei
      sequenceNumber KeyInstall.encodeKeyVerify sei
    have hreact : n.onFrame ssl (nonceReport sequenceNumber rei) sei =
        ({ n with classChannel := p', stage := .awaitTransferEnd }, [frame]) := by
      unfold JoiningNode.onFrame nonceReport
      rw [hn.stage]
      dsimp only
      rw [NonceSync.decodeNonceReport_encodeNonceReport]
      unfold JoiningNode.onClassNonce
      dsimp only
      rw [hsend]
    refine .of_node hshows hreact (.keyVerify hconfig ⟨hn.nodeId, hn.controllerNodeId,
      hn.homeId, hn.keyPair, rfl, hn.requests⟩ hjoined hinstalling hclassConfig hcarries) ?_
    rw [hn.stage]
    simp only [rank, List.length_singleton]
    omega
  | @transferEnd _ _ installing _ bit frame hconfig hn hinstalling hframe =>
    -- The key that was being installed is now one of those that are, in the order of the requests.
    have hn' : Requesting keySet node
        { n with
          tempChannel := (n.tempChannel.receive ssl frame).2
          installed := n.installed ++ [n.installing] } .awaitTransferEnd [] := by
      obtain ⟨done, hdone, hinstalled⟩ := hn.requests
      refine ⟨hn.nodeId, hn.controllerNodeId, hn.homeId, hn.keyPair, hn.stage, done ++ [bit], ?_, ?_⟩
      · rw [hdone]
        simp
      · dsimp only
        rw [hinstalled, hinstalling, List.map_append, List.map_singleton]
    obtain ⟨n', sent, hnext, hposition', hrank⟩ :=
      position_requestNext hccm hn' hframe.joined.symm hconfig sei installing classChannel
    have hreact : n.onFrame ssl frame sei = (n', [sent]) := by
      rw [← hnext]
      unfold JoiningNode.onFrame JoiningNode.receive
      rw [hn.stage]
      dsimp only
      rw [hframe.received, Option.bind_some, KeyInstall.decodeTransferEnd_encodeTransferEnd]
      exact if_pos rfl
    refine .of_node hshows hreact hposition' ?_
    rw [hrank, hn.stage]
    simp only [rank, List.length_singleton]
    omega

end Steps

/-! ## What comes from outside -/

/-- An event at the controller that sends the node nothing. -/
theorem Progress.of_event {happening : Happening} {event : BootstrapEvent}
    {s' : Bootstrap} {outputs : List BootstrapOutput}
    (hn : n.nodeId = node.nodeId) (hshows : Shows node controller session channel classChannel)
    (hhappening : step ssl (some keySet) { controller, node := n, toNode, toController } happening =
      bootstrap ssl (some keySet) { controller, node := n, toNode, toController } event)
    (hdelivers : ∀ h, delivers ⟨h, happening⟩ = false)
    (hstep : controller.step ssl (some keySet) event = (s', outputs))
    (hquiet : ∀ out ∈ outputs,
      out.frameFor node.nodeId = none ∧ out.recordsFor node.nodeId = false)
    (hshows' : Shows node s' session' channel' classChannel')
    (hposition : Position ssl keySet keyPair node shared session' channel' classChannel' n toNode
      toController) (hsession : shownOf node session' = shownOf node session) :
    Progress ssl keySet keyPair node shared { controller, node := n, toNode, toController }
      happening := by
  -- Nothing of what the controller sends goes to the node or records it, so the frames on their way
  -- and the records are as they were.
  have hframes : outputs.filterMap (BootstrapOutput.frameFor node.nodeId) = [] :=
    List.filterMap_eq_nil_iff.mpr fun out hout => (hquiet out hout).1
  have hrecords : outputs.filter (BootstrapOutput.recordsFor node.nodeId) = [] :=
    List.filter_eq_nil_iff.mpr fun out hout => by
      rw [(hquiet out hout).2]
      exact Bool.false_ne_true
  have hresult : step ssl (some keySet) { controller, node := n, toNode, toController } happening =
      ({ controller := s', node := n, toNode, toController }, outputs) := by
    rw [hhappening]
    unfold bootstrap
    dsimp only
    rw [hn, hstep]
    dsimp only
    rw [hframes, List.append_nil]
  refine ⟨?_, ?_, ?_⟩
  · rw [hresult]
    exact ⟨session', channel', classChannel', hshows', hposition⟩
  · rw [hresult, hdelivers]
    exact Nat.le_add_right _ _
  · rw [hresult, hrecords, List.append_nil]
    unfold Handshake.shown
    dsimp only
    rw [hshows'.session, hshows.session, hsession]

/-- The operator is awaited, and then the temporary keys are as good as there; or he is not. -/
theorem Position.parked_or (h : Position ssl keySet keyPair node shared session channel classChannel
    n toNode toController) :
    (∀ found, session = some found → found.phase ≠ .awaitDsk) ∨
      (session = some (parked keyPair node) ∧ ∀ channel' installing,
        channel'.config = tempConfig ssl keyPair node shared →
          Position ssl keySet keyPair node shared
            (some (secured ssl keyPair node shared installing .awaitTempChannel)) channel'
            classChannel n toNode toController) := by
  have hother : ∀ session : Session, session.phase ≠ .awaitDsk →
      ∀ found, some session = some found → found.phase ≠ .awaitDsk := by
    intro session hphase found hfound
    obtain rfl := Option.some.inj hfound
    exact hphase
  -- Only in the two parked positions does the phase wait for the operator; in these the rest of the
  -- position is already that after his confirmation.
  cases h with
  | kexGet | kexReport => exact Or.inl (hother _ (show Phase.awaitKexReport ≠ .awaitDsk by decide))
  | kexSet | publicKey => exact Or.inl (hother _ (show Phase.awaitPublicKey ≠ .awaitDsk by decide))
  | parkedKey hdsk => exact Or.inr ⟨rfl, fun _ _ hconfig => .agreedKey hconfig⟩
  | parkedGets hdsk hp hgets => exact Or.inr ⟨rfl, fun _ _ hconfig => .agreedGets hconfig hp hgets⟩
  | agreedKey | agreedGets =>
    exact Or.inl (hother _ (show Phase.awaitTempChannel ≠ .awaitDsk by decide))
  | nonceReport | kexSetEcho =>
    exact Or.inl (hother _ (show Phase.awaitKexSetEcho ≠ .awaitDsk by decide))
  | kexReportEcho | keyGet | transferEnd | requestComplete =>
    exact Or.inl (hother _ (show Phase.awaitNetworkKeyGet ≠ .awaitDsk by decide))
  | keyReport | classNonceGet =>
    exact Or.inl (hother _ (show Phase.awaitClassNonceGet ≠ .awaitDsk by decide))
  | classNonceReport | keyVerify =>
    exact Or.inl (hother _ (show Phase.awaitKeyVerify ≠ .awaitDsk by decide))
  | complete =>
    refine Or.inl fun found hfound => ?_
    cases hfound

/-- What the operator types is progress: the right PIN finishes the key agreement, if it is waited
for, and a PIN that is not well formed is ignored. -/
theorem progress_confirmDsk {s : Bootstrap} (hagrees : Agrees ssl keySet s keyPair node shared)
    (hshows : Shows node controller session channel classChannel)
    (hposition : Position ssl keySet keyPair node shared session channel classChannel n toNode
      toController) {pin : Bytes} (hpin : PublicKey.parsePin pin = none ∨
        PublicKey.parsePin pin = some (PublicKey.groupValue node.keyPair.publicKey 0)) :
    Progress ssl keySet keyPair node shared { controller, node := n, toNode, toController }
      (.confirmDsk pin) := by
  have hn := hposition.nodeId.1
  have hhappening : step ssl (some keySet) { controller, node := n, toNode, toController }
      (.confirmDsk pin) =
        bootstrap ssl (some keySet) { controller, node := n, toNode, toController }
          (.confirmDsk node.nodeId pin) := by
    unfold step
    dsimp only
    rw [hn]
  have hignored : (PublicKey.parsePin pin = none ∨
      ∀ found, session = some found → found.phase ≠ .awaitDsk) →
        Progress ssl keySet keyPair node shared { controller, node := n, toNode, toController }
          (.confirmDsk pin) := fun h =>
    .of_event hn hshows hhappening (fun _ => rfl) (hshows.confirmDsk_ignored h)
      (fun _ hout => absurd hout List.not_mem_nil) hshows hposition rfl
  rcases hposition.parked_or with hphase | ⟨rfl, hagreed⟩
  · exact hignored (Or.inr hphase)
  · rcases hpin with hnone | hpin
    · exact hignored (Or.inl hnone)
    · obtain ⟨s', outputs, channel', installing, hstep, hquiet, hconfig, hshows'⟩ :=
        hshows.confirmDsk (some keySet) hagrees.ours hpin
      exact .of_event hn hshows hhappening (fun _ => rfl) hstep hquiet hshows'
        (hagreed channel' installing hconfig) rfl

/-- The node asks again: one more NONCE_GET comes after the others. -/
theorem progress_askAgain {s : Bootstrap} (hagrees : Agrees ssl keySet s keyPair node shared)
    (hshows : Shows node controller session channel classChannel)
    (hposition : Position ssl keySet keyPair node shared session channel classChannel n toNode
      toController) :
    Progress ssl keySet keyPair node shared { controller, node := n, toNode, toController }
      .askAgain := by
  -- Either it awaits the report, or it does not ask.
  have hmoves : ∀ n' frames, n.askAgain = (n', frames) → n'.stage = n.stage →
      n'.requests = n.requests → frames.length ≤ 1 →
      Position ssl keySet keyPair node shared session channel classChannel n' toNode
        (toController ++ frames) →
      Progress ssl keySet keyPair node shared { controller, node := n, toNode, toController }
        .askAgain := by
    intro n' frames hask hstage hrequests hlength hposition'
    have hresult : step ssl (some keySet) { controller, node := n, toNode, toController } .askAgain =
        ({ controller, node := n', toNode, toController := toController ++ frames }, []) := by
      unfold step hear
      dsimp only
      rw [hask]
    refine ⟨?_, ?_, ?_⟩
    · rw [hresult]
      exact ⟨session, channel, classChannel, hshows, hposition'⟩
    · rw [hresult]
      simp only [Handshake.work, delivers, asksAgain, List.length_append, hstage, hrequests,
        Bool.toNat_true, Bool.toNat_false]
      omega
    · rw [hresult]
      exact (List.append_nil _).symm
  have hquiet : n.stage ≠ .awaitTempNonce →
      Progress ssl keySet keyPair node shared { controller, node := n, toNode, toController }
        .askAgain := by
    intro hstage
    refine hmoves n [] (if_neg hstage) rfl rfl (Nat.zero_le 1) ?_
    rw [List.append_nil]
    exact hposition
  have hgets : ∀ {gets : List Bytes}, NonceGets gets → ∀ sequenceNumber,
      NonceGets (gets ++ [NonceSync.encodeNonceGet sequenceNumber]) := by
    intro gets hgets sequenceNumber frame hframe
    rcases List.mem_append.mp hframe with hframe | hframe
    · exact hgets frame hframe
    · exact ⟨sequenceNumber, List.mem_singleton.mp hframe⟩
  cases hposition with
  | kexGet =>
    refine hquiet ?_
    rw [hagrees.stage]
    decide
  | kexReport | kexSet =>
    exact hquiet (show JoiningNode.Stage.awaitKexSet ≠ .awaitTempNonce by decide)
  | publicKey | parkedKey | agreedKey =>
    exact hquiet (show JoiningNode.Stage.awaitPublicKey ≠ .awaitTempNonce by decide)
  | kexSetEcho | kexReportEcho =>
    exact hquiet (show JoiningNode.Stage.awaitKexReportEcho ≠ .awaitTempNonce by decide)
  | @parkedGets _ _ p gets hdsk hp hgets' =>
    exact hmoves _ _ rfl rfl rfl (Nat.le_refl 1)
      (.parkedGets hdsk ⟨hp.config, hp.span⟩ (hgets hgets' _))
  | @agreedGets _ _ installing p gets hconfig hp hgets' =>
    exact hmoves _ _ rfl rfl rfl (Nat.le_refl 1)
      (.agreedGets hconfig ⟨hp.config, hp.span⟩ (hgets hgets' _))
  | @nonceReport _ _ installing p gets rei sequenceNumber hconfig hrei hp hgets' =>
    exact hmoves _ _ rfl rfl rfl (Nat.le_refl 1)
      (.nonceReport hconfig hrei ⟨hp.config, hp.span⟩ (hgets hgets' _))
  | keyGet _ hn | keyReport _ hn | classNonceGet _ hn | classNonceReport _ hn | keyVerify _ hn
  | transferEnd _ hn | requestComplete _ hn | complete hn =>
    refine hquiet ?_
    rw [hn.stage]
    decide

/-- The channel under a new key matters while a verify is awaited over it. -/
theorem Position.of_classChannel (h : Position ssl keySet keyPair node shared session channel
      classChannel n toNode toController)
    (hclass : ∀ found, session = some found → found.phase = .awaitKeyVerify →
      classChannel' = classChannel) :
    Position ssl keySet keyPair node shared session channel classChannel' n toNode toController := by
  cases h with
  | kexGet => exact .kexGet
  | kexReport => exact .kexReport
  | kexSet => exact .kexSet
  | publicKey => exact .publicKey
  | parkedKey hdsk => exact .parkedKey hdsk
  | parkedGets hdsk hp hgets => exact .parkedGets hdsk hp hgets
  | agreedKey hconfig => exact .agreedKey hconfig
  | agreedGets hconfig hp hgets => exact .agreedGets hconfig hp hgets
  | nonceReport hconfig hrei hp hgets => exact .nonceReport hconfig hrei hp hgets
  | kexSetEcho hconfig hframe hgets => exact .kexSetEcho hconfig hframe hgets
  | kexReportEcho hconfig hframe => exact .kexReportEcho hconfig hframe
  | keyGet hconfig hn hframe => exact .keyGet hconfig hn hframe
  | keyReport hconfig hn hframe => exact .keyReport hconfig hn hframe
  | classNonceGet hconfig hn hjoined hinstalling hown =>
    exact .classNonceGet hconfig hn hjoined hinstalling hown
  | classNonceReport hconfig hn hjoined hinstalling hown hclassConfig hrei =>
    obtain rfl := hclass _ rfl rfl
    exact .classNonceReport hconfig hn hjoined hinstalling hown hclassConfig hrei
  | keyVerify hconfig hn hjoined hinstalling hclassConfig hframe =>
    obtain rfl := hclass _ rfl rfl
    exact .keyVerify hconfig hn hjoined hinstalling hclassConfig hframe
  | transferEnd hconfig hn hinstalling hframe => exact .transferEnd hconfig hn hinstalling hframe
  | requestComplete hconfig hn hnone hframe => exact .requestComplete hconfig hn hnone hframe
  | complete hn hnone => exact .complete hn hnone

/-- An output for others is neither a frame to the node nor a record of it. -/
theorem quiet_of_not_isFor {nodeId : NodeId} {out : BootstrapOutput}
    (h : out.isFor nodeId = false) :
    out.frameFor nodeId = none ∧ out.recordsFor nodeId = false := by
  cases out with
  | sendPlaintext target payload => exact ⟨if_neg (beq_eq_false_iff_ne.mp h), rfl⟩
  | sendEncrypted target inner frame => exact ⟨if_neg (beq_eq_false_iff_ne.mp h), rfl⟩
  | dskPendingConfirmation | s2KeyAgreementComplete => exact ⟨rfl, rfl⟩
  | setSecurityScheme | nodeSecurityStatus => exact ⟨rfl, h⟩

/-- An event that does not concern the node, and does not collide with its verify, leaves its
handshake where it is. -/
theorem progress_elsewhere (hshows : Shows node controller session channel classChannel)
    (hposition : Position ssl keySet keyPair node shared session channel classChannel n toNode
      toController) {event : BootstrapEvent} (hevent : event.concerns node.nodeId = false)
    (hapart : ¬ Bootstrap.Collides node.nodeId ⟨controller, event⟩) :
    Progress ssl keySet keyPair node shared { controller, node := n, toNode, toController }
      (.elsewhere event) := by
  have hunnoticed := Bootstrap.unnoticed_step ssl (some keySet) hevent hapart
  rcases hstep : controller.step ssl (some keySet) event with ⟨s', outputs⟩
  rw [hstep] at hunnoticed
  obtain ⟨halike, houtputs⟩ := hunnoticed
  have hshows' : Shows node s' session channel (s'.classSpanManager.peers node.nodeId) :=
    ⟨halike.session.trans hshows.session, halike.channel.trans hshows.channel, rfl,
      halike.homeId.trans hshows.homeId, halike.controllerNodeId.trans hshows.controllerNodeId⟩
  refine .of_event hposition.nodeId.1 hshows rfl (fun _ => rfl) hstep
    (fun out hout => quiet_of_not_isFor (houtputs out hout)) hshows'
    (hposition.of_classChannel ?_) rfl
  intro found hfound hphase
  rw [← hshows.classChannel]
  exact halike.classChannel found (hshows.session.trans hfound) hphase

/-- Every orderly step keeps a handshake going, by who takes it: the controller, the node, the
operator or another node. -/
theorem progress_step (hccm : ssl.CcmInverse) {s : Bootstrap}
    (hagrees : Agrees ssl keySet s keyPair node shared) {h : Handshake}
    (hgoing : Going ssl keySet keyPair node shared h) {happening : Happening}
    (horderly : Orderly ⟨h, happening⟩) : Progress ssl keySet keyPair node shared h happening := by
  obtain ⟨session, channel, classChannel, hshows, hposition⟩ := hgoing
  obtain ⟨hnode, hkeyPair⟩ := hposition.nodeId
  cases happening with
  | toController entropy => exact progress_toController hccm hagrees hshows hposition entropy
  | toNode sei => exact progress_toNode hccm hagrees hshows hposition sei
  | confirmDsk pin =>
    refine progress_confirmDsk hagrees hshows hposition ?_
    rw [← hkeyPair]
    exact horderly
  | askAgain => exact progress_askAgain hagrees hshows hposition
  | elsewhere event =>
    obtain ⟨hevent, hapart⟩ := horderly
    rw [hnode] at hevent hapart
    exact progress_elsewhere hshows hposition hevent hapart

end Ends

end Handshake

end Zwaved.S2
