import Zwaved.Reactive.Rank
import Zwaved.S2.Handshake.Progress

/-!
# The handshake completes

From whatever state the controller is in when the inclusion of a node is announced, and however the
handshake is interleaved with other nodes and with the operator, in an orderly run: there is an end
to the deliveries, at rest the handshake is complete or waits for the node to ask again, and it can
be completed from wherever it is (`handshake_completes`). With another PIN than that of the label
it cannot: nothing is on its way any more, and both ends wait.
-/

namespace Zwaved.S2

open Reactive

namespace Handshake

section Ends

variable {ssl : OpenSsl} {keySet : NetworkKeys.KeySet} {keyPair : KeyPair} {node : JoiningNode}
  {shared : SharedSecret} {controller : Bootstrap} {n : JoiningNode}
  {toNode toController : List Bytes} {session : Option Session} {channel classChannel : Peer}

/-- The announced inclusion opens a session and puts out KEX_GET. -/
theorem start_eq {s : Bootstrap} (hready : s.keysReady = true) {commandClasses : Bytes}
    (hs2 : securityTwo ∈ commandClasses) (node : JoiningNode) :
    start ssl (some keySet) s node commandClasses keyPair =
      { controller := s.setSession node.nodeId { keyPair }, node, toNode := [Kex.encodeGet] } := by
  have hstep : s.step ssl (some keySet) (.nodeIncluded node.nodeId commandClasses keyPair) =
      (s.setSession node.nodeId { keyPair }, [.sendPlaintext node.nodeId Kex.encodeGet]) := by
    unfold Bootstrap.step Bootstrap.onNodeIncluded
    dsimp only
    rw [if_neg (not_not.mpr hs2), if_neg (by rw [hready]; decide)]
  unfold start bootstrap
  dsimp only
  rw [hstep]
  simp [BootstrapOutput.frameFor]

/-- A node that lists Security 2 and is included while the keys are ready starts a handshake that
goes on. -/
theorem going_start {s : Bootstrap} (hagrees : Agrees ssl keySet s keyPair node shared)
    (hready : s.keysReady = true) {commandClasses : Bytes} (hs2 : securityTwo ∈ commandClasses) :
    Going ssl keySet keyPair node shared
      (start ssl (some keySet) s node commandClasses keyPair) := by
  rw [start_eq hready hs2]
  exact ⟨_, _, _, ⟨Bootstrap.sessions_setSession s _ _, rfl, rfl, hagrees.homeId.symm,
    hagrees.controllerNodeId.symm⟩, .kexGet⟩

/-- The handshake is complete: the node has the controller's key of every class that it requested,
and its session is over. -/
def Complete (keySet : NetworkKeys.KeySet) (node : JoiningNode) (h : Handshake) : Prop :=
  h.node.stage = .joined ∧ h.node.installed = node.requests.map (keyFor keySet) ∧
    h.controller.sessions node.nodeId = none

/-- The node waits for a nonce, and its NONCE_GET is lost: the controller waits for the operator, or
has done so until the NONCE_GET came. -/
def Unanswered (h : Handshake) : Prop :=
  h.node.stage = .awaitTempNonce ∧ ∃ session, h.controller.sessions h.node.nodeId = some session ∧
    (session.phase = .awaitDsk ∨ session.phase = .awaitTempChannel)

/-- At rest the handshake is complete, or the node has to ask again. -/
theorem Going.of_quiet {h : Handshake} (hgoing : Going ssl keySet keyPair node shared h)
    (hquiet : h.Quiet) : Complete keySet node h ∨ Unanswered h := by
  obtain ⟨controller, n, toNode, toController⟩ := h
  obtain ⟨session, channel, classChannel, hshows, hposition⟩ := hgoing
  obtain ⟨hto, hfrom⟩ := hquiet
  dsimp only at hshows hposition hto hfrom
  cases hposition with
  | kexGet | kexSet | parkedKey | agreedKey | nonceReport | kexReportEcho | keyReport
  | classNonceReport | transferEnd => cases hto
  | kexReport | publicKey | keyGet | classNonceGet | keyVerify | requestComplete => cases hfrom
  | kexSetEcho =>
    obtain ⟨-, hsingle⟩ := List.append_eq_nil_iff.mp hfrom
    cases hsingle
  | parkedGets => exact Or.inr ⟨rfl, _, hshows.session, Or.inl rfl⟩
  | agreedGets => exact Or.inr ⟨rfl, _, hshows.session, Or.inr rfl⟩
  | complete hn hnone =>
    obtain ⟨done, hdone, hinstalled⟩ := hn.requests
    rw [hnone, List.append_nil, List.append_nil] at hdone
    exact Or.inl ⟨hn.stage, by rw [hdone]; exact hinstalled, hshows.session⟩

/-- What the node has installed so far are the controller's keys, in the order of its requests. -/
theorem Position.installed {s : Bootstrap} (hagrees : Agrees ssl keySet s keyPair node shared)
    (h : Position ssl keySet keyPair node shared session channel classChannel n toNode
      toController) : n.installed <+: node.requests.map (keyFor keySet) := by
  have hnone : node.installed <+: node.requests.map (keyFor keySet) := by
    rw [hagrees.installed]
    exact List.nil_prefix
  have hsome : ∀ {n : JoiningNode} {stage : JoiningNode.Stage} {awaited : List UInt8},
      Requesting keySet node n stage awaited →
        n.installed <+: node.requests.map (keyFor keySet) := by
    intro n stage awaited hn
    obtain ⟨done, hdone, hinstalled⟩ := hn.requests
    rw [hdone, hinstalled, List.map_append]
    exact List.prefix_append _ _
  cases h with
  | kexGet | kexReport | kexSet | publicKey | parkedKey | parkedGets | agreedKey | agreedGets
  | nonceReport | kexSetEcho | kexReportEcho => exact hnone
  | keyGet _ hn | keyReport _ hn | classNonceGet _ hn | classNonceReport _ hn | keyVerify _ hn
  | transferEnd _ hn | requestComplete _ hn | complete hn => exact hsome hn

/-- The steps are all orderly. -/
def OrderlyRun (ssl : OpenSsl) (keySet : NetworkKeys.KeySet) (h : Handshake)
    (schedule : List Happening) : Prop :=
  ∀ taken ∈ trace (step ssl (some keySet)) h schedule, Orderly taken

/-- An orderly run and one that is orderly from where it ends make one orderly run. -/
theorem OrderlyRun.append {h : Handshake} {first second : List Happening}
    (hfirst : OrderlyRun ssl keySet h first)
    (hsecond : OrderlyRun ssl keySet (exec (step ssl (some keySet)) h first) second) :
    OrderlyRun ssl keySet h (first ++ second) := by
  intro taken htaken
  rw [trace_append] at htaken
  rcases List.mem_append.mp htaken with htaken | htaken
  · exact hfirst taken htaken
  · exact hsecond taken htaken

/-- Once both ends have the temporary keys, a node that asks again gets its nonce. -/
theorem resumes_agreed (hccm : ssl.CcmInverse) {s : Bootstrap}
    (hagrees : Agrees ssl keySet s keyPair node shared) {p : Peer}
    {installing : UInt8 × KeyDerivation.NetworkKeys}
    (hshows : Shows node controller (some (secured ssl keyPair node shared installing
      .awaitTempChannel)) channel classChannel)
    (hconfig : channel.config = tempConfig ssl keyPair node shared)
    (hp : Untouched p (tempConfig ssl keyPair node shared)) (entropy : EntropyInput) :
    ∃ rest, OrderlyRun ssl keySet
        { controller, node := { chosen node .awaitTempNonce with tempChannel := p } } rest ∧
      Going ssl keySet keyPair node shared (exec (step ssl (some keySet))
        { controller, node := { chosen node .awaitTempNonce with tempChannel := p } } rest) ∧
      work (exec (step ssl (some keySet))
        { controller, node := { chosen node .awaitTempNonce with tempChannel := p } } rest) <
          rank .awaitTempNonce node.requests.length := by
  obtain ⟨s', hstep, hshows'⟩ := hshows.tempNonceGet (some keySet) entropy
    p.txSequence
  -- The NONCE_GET and the report of the controller ...
  have hruns : exec (step ssl (some keySet))
      { controller, node := { chosen node .awaitTempNonce with tempChannel := p } }
      [.askAgain, .toController entropy] =
        { controller := s'
          node := { chosen node .awaitTempNonce with tempChannel := p.nonceGet.2 }
          toNode := [nonceReport channel.txSequence entropy] } := by
    have hanswer : step ssl (some keySet)
        { controller
          node := { chosen node .awaitTempNonce with tempChannel := p.nonceGet.2 }
          toController := [NonceSync.encodeNonceGet p.txSequence] } (.toController entropy) =
        ({ controller := s'
           node := { chosen node .awaitTempNonce with tempChannel := p.nonceGet.2 }
           toNode := [nonceReport channel.txSequence entropy] },
          [.sendPlaintext node.nodeId (nonceReport channel.txSequence entropy)]) := by
      have hid : (chosen node .awaitTempNonce).nodeId = node.nodeId := rfl
      unfold step bootstrap
      dsimp only
      rw [hid, hstep]
      simp [BootstrapOutput.frameFor]
    exact congrArg Prod.fst hanswer
  -- ... and the echo that the node sends then.
  have hposition : Position ssl keySet keyPair node shared
      (some (secured ssl keyPair node shared installing .awaitKexSetEcho))
      (channel.respondToNonceGet entropy).2 classChannel
      { chosen node .awaitTempNonce with tempChannel := p.nonceGet.2 }
      [nonceReport channel.txSequence entropy] [] :=
    .nonceReport hconfig rfl ⟨hp.config, hp.span⟩ fun _ hframe => absurd hframe List.not_mem_nil
  have hprogress := progress_toNode hccm hagrees hshows' hposition entropy
  refine ⟨[.askAgain, .toController entropy] ++ [.toNode entropy], ?_, ?_, ?_⟩
  · intro taken htaken
    simp only [List.cons_append, List.nil_append, trace, List.mem_cons, List.not_mem_nil,
      or_false] at htaken
    rcases htaken with rfl | rfl | rfl
    · trivial
    · trivial
    · trivial
  · rw [exec_append, hruns]
    exact hprogress.going
  · rw [exec_append, hruns]
    have hwork := hprogress.work
    have hbefore : work
        { controller := s'
          node := { chosen node .awaitTempNonce with tempChannel := p.nonceGet.2 }
          toNode := [nonceReport channel.txSequence entropy] } =
        rank .awaitTempNonce node.requests.length := rfl
    rw [hbefore] at hwork
    simp only [delivers, asksAgain, List.isEmpty_cons, Bool.not_false, Bool.toNat_true,
      Bool.toNat_false, Nat.add_zero] at hwork
    exact hwork

/-- As long as a handshake is not complete, an orderly run goes on with it and leaves less work. -/
theorem Going.resumes (hccm : ssl.CcmInverse) {s : Bootstrap}
    (hagrees : Agrees ssl keySet s keyPair node shared) {h : Handshake}
    (hgoing : Going ssl keySet keyPair node shared h) (hnot : ¬ Complete keySet node h)
    (entropy : EntropyInput) :
    ∃ rest, OrderlyRun ssl keySet h rest ∧
      Going ssl keySet keyPair node shared (exec (step ssl (some keySet)) h rest) ∧
      work (exec (step ssl (some keySet)) h rest) < work h := by
  -- A frame that is on its way is delivered.
  have hdeliver : ∀ happening, Orderly ⟨h, happening⟩ → delivers ⟨h, happening⟩ = true →
      asksAgain ⟨h, happening⟩ = false → ∃ rest, OrderlyRun ssl keySet h rest ∧
        Going ssl keySet keyPair node shared (exec (step ssl (some keySet)) h rest) ∧
        work (exec (step ssl (some keySet)) h rest) < work h := by
    intro happening horderly hdelivers hasks
    have hprogress := progress_step hccm hagrees hgoing horderly
    have hwork := hprogress.work
    rw [hdelivers, hasks] at hwork
    refine ⟨[happening], ?_, hprogress.going, hwork⟩
    intro taken htaken
    obtain rfl := List.mem_singleton.mp htaken
    exact horderly
  by_cases hto : h.toNode = []
  · by_cases hfrom : h.toController = []
    · -- Nothing is on its way: the node asks again, after the operator.
      obtain ⟨controller, n, toNode, toController⟩ := h
      obtain ⟨session, channel, classChannel, hshows, hposition⟩ := hgoing
      dsimp only at hshows hposition hto hfrom
      cases hposition with
      | kexGet | kexSet | parkedKey | agreedKey | nonceReport | kexReportEcho | keyReport
      | classNonceReport | transferEnd => cases hto
      | kexReport | publicKey | keyGet | classNonceGet | keyVerify | requestComplete => cases hfrom
      | kexSetEcho =>
        obtain ⟨-, hsingle⟩ := List.append_eq_nil_iff.mp hfrom
        cases hsingle
      | complete hn hnone =>
        have hgoing : Going ssl keySet keyPair node shared
            { controller, node := n, toNode := [], toController := [] } :=
          ⟨_, _, _, hshows, .complete hn hnone⟩
        rcases hgoing.of_quiet ⟨rfl, rfl⟩ with hcomplete | ⟨hstage, -⟩
        · exact absurd hcomplete hnot
        · rw [hn.stage] at hstage
          cases hstage
      | agreedGets hconfig hp hgets =>
        subst hfrom
        exact resumes_agreed hccm hagrees hshows hconfig hp entropy
      | parkedGets hdsk hp hgets =>
        subst hfrom
        obtain ⟨s', outputs, channel', installing, hstep, hquiet, hconfig, hshows'⟩ :=
          hshows.confirmDsk (some keySet) hagrees.ours
            (PublicKey.parsePin_dskPin node.keyPair.publicKey)
        obtain ⟨rest, horderly, hrest, hwork⟩ :=
          resumes_agreed hccm hagrees hshows' hconfig hp entropy
        have hframes : outputs.filterMap (BootstrapOutput.frameFor node.nodeId) = [] :=
          List.filterMap_eq_nil_iff.mpr fun out hout => (hquiet out hout).1
        have hconfirm : ∀ p, exec (step ssl (some keySet))
            { controller, node := { chosen node .awaitTempNonce with tempChannel := p } }
            [.confirmDsk (PublicKey.ascii (PublicKey.dskPin node.keyPair.publicKey))] =
              { controller := s', node := { chosen node .awaitTempNonce with tempChannel := p } } := by
          intro p
          have hid : (chosen node .awaitTempNonce).nodeId = node.nodeId := rfl
          rw [exec_cons, exec_nil]
          unfold step bootstrap
          dsimp only
          rw [hid, hstep]
          dsimp only
          rw [hframes]
          rfl
        refine ⟨[.confirmDsk (PublicKey.ascii (PublicKey.dskPin node.keyPair.publicKey))] ++ rest,
          OrderlyRun.append ?_ ?_, ?_, ?_⟩
        · intro taken htaken
          obtain rfl := List.mem_singleton.mp htaken
          exact Or.inr (PublicKey.parsePin_dskPin node.keyPair.publicKey)
        · rw [hconfirm]
          exact horderly
        · rw [exec_append, hconfirm]
          exact hrest
        · rw [exec_append, hconfirm]
          exact hwork
    · exact hdeliver (.toController entropy) trivial (by simp [delivers, hfrom]) rfl
  · exact hdeliver (.toNode entropy) trivial (by simp [delivers, hto]) rfl

/-- From wherever a handshake is, an orderly run brings it to its end, by induction on the work that
is left. -/
theorem Going.completes (hccm : ssl.CcmInverse) {s : Bootstrap}
    (hagrees : Agrees ssl keySet s keyPair node shared) (entropy : EntropyInput) :
    ∀ {h : Handshake}, Going ssl keySet keyPair node shared h →
      ∃ rest, OrderlyRun ssl keySet h rest ∧
        Complete keySet node (exec (step ssl (some keySet)) h rest) := by
  intro h hgoing
  induction hwork : work h using Nat.strong_induction_on generalizing h with
  | _ left ih =>
    by_cases hcomplete : Complete keySet node h
    · exact ⟨[], fun _ htaken => absurd htaken List.not_mem_nil, hcomplete⟩
    · obtain ⟨first, horderly, hgoing', hless⟩ := hgoing.resumes hccm hagrees hcomplete entropy
      obtain ⟨rest, hrest, hdone⟩ := ih _ (hwork ▸ hless) hgoing' rfl
      refine ⟨first ++ rest, horderly.append hrest, ?_⟩
      rw [exec_append]
      exact hdone

/-- However the deliveries, the operator, the questions of the node and what goes on elsewhere are
interleaved, as long as the operator types the PIN of the label or no PIN, and no other node asks
for the nonce of a new key's channel while the verify of this one is awaited: the node installs the
controller's keys in the order of its requests; its class is recorded once its session is over, and
not before; only so many frames are delivered, and when none is on its way, the handshake is
complete, unless the node's NONCE_GET went unanswered because the operator was awaited; and it can
always be completed. -/
theorem handshake_completes (hccm : ssl.CcmInverse) {s : Bootstrap}
    (hagrees : Agrees ssl keySet s keyPair node shared) (hready : s.keysReady = true)
    {commandClasses : Bytes} (hs2 : securityTwo ∈ commandClasses) (schedule : List Happening)
    (horderly : OrderlyRun ssl keySet (start ssl (some keySet) s node commandClasses keyPair)
      schedule) :
    let begun := start ssl (some keySet) s node commandClasses keyPair
    let h := exec (step ssl (some keySet)) begun schedule
    h.node.installed <+: node.requests.map (keyFor keySet) ∧
      (h.controller.sessions node.nodeId = none →
        (emitted (step ssl (some keySet)) begun schedule).filter
          (BootstrapOutput.recordsFor node.nodeId) = recorded node) ∧
      (h.controller.sessions node.nodeId ≠ none →
        (emitted (step ssl (some keySet)) begun schedule).filter
          (BootstrapOutput.recordsFor node.nodeId) = []) ∧
      (trace (step ssl (some keySet)) begun schedule).countP delivers ≤
        10 + 6 * node.requests.length +
          (trace (step ssl (some keySet)) begun schedule).countP asksAgain ∧
      (h.Quiet → Complete keySet node h ∨ Unanswered h) ∧
      ∃ rest, OrderlyRun ssl keySet h rest ∧
        Complete keySet node (exec (step ssl (some keySet)) h rest) := by
  intro begun h
  -- The inclusion starts the session, and with it the handshake is going.
  have hbegun : Going ssl keySet keyPair node shared begun := going_start hagrees hready hs2
  -- Every orderly step keeps it going, shows what it records, and pays for the frames it delivers.
  have hgoing : Going ssl keySet keyPair node shared h :=
    exec_of_steps hbegun horderly fun _ _ hI hC => (progress_step hccm hagrees hI hC).going
  have hshown := shown_eq (shown node) (BootstrapOutput.recordsFor node.nodeId) hbegun horderly
    fun _ _ hI hC =>
      ⟨(progress_step hccm hagrees hI hC).going, (progress_step hccm hagrees hI hC).shown⟩
  have hbound := countP_add_rank_le work delivers asksAgain hbegun horderly
    fun _ _ hI hC =>
      ⟨(progress_step hccm hagrees hI hC).going, (progress_step hccm hagrees hI hC).work⟩
  have hstart : begun =
      { controller := s.setSession node.nodeId { keyPair }, node, toNode := [Kex.encodeGet] } :=
    start_eq hready hs2 node
  -- At the start nothing is shown, so what is shown at the end is what has been recorded.
  have hnone : shown node begun = [] := by
    rw [hstart]
    unfold shown
    dsimp only
    rw [Bootstrap.sessions_setSession]
    rfl
  rw [hnone, List.nil_append] at hshown
  refine ⟨?_, ?_, ?_, ?_, hgoing.of_quiet,
    hgoing.completes hccm hagrees (Vector.replicate 16 0)⟩
  · obtain ⟨session, channel, classChannel, -, hposition⟩ := hgoing
    exact hposition.installed hagrees
  -- Without a session the controller has recorded the node.
  · intro hover
    rw [← hshown]
    unfold shown
    rw [hover]
    rfl
  -- With a session it has recorded nothing yet.
  · intro hopen
    obtain ⟨session, hsession⟩ := Option.ne_none_iff_exists'.mp hopen
    rw [← hshown]
    unfold shown
    rw [hsession]
    rfl
  -- The work of the start is what the steps may spend.
  · have hwork : work begun = 10 + 6 * node.requests.length := by
      rw [hstart]
      unfold work
      dsimp only
      rw [hagrees.stage]
      rfl
    rw [hwork] at hbound
    omega

end Ends

/-! ## A node with a DSK -/

/-- Node 7 asks for every class. The stand-in agrees on a secret with it. -/
def sampleNode : JoiningNode where
  nodeId := 7
  controllerNodeId := 0
  homeId := Vector.replicate 4 0
  keyPair := { publicKey := Vector.replicate 32 3, privateKey := Vector.replicate 32 3 }
  report :=
    { supportedSchemes := Kex.kexScheme1
      supportedCurves := Kex.ecdhCurve25519
      requestedKeys := controllerSupportedKeys }
  requests := [Kex.keyS2AccessControl, Kex.keyS2Unauthenticated]

/-- The controller's key pair. -/
def sampleKeyPair : KeyPair :=
  { publicKey := Vector.replicate 32 1, privateKey := Vector.replicate 32 1 }

/-- The operator types one digit, which is no PIN, while node 8 is included, the node asks in vain,
and after the right PIN it asks twice. -/
def sampleSchedule : List Happening :=
  let e : EntropyInput := Vector.replicate 16 4
  [.toNode e, .toController e, .toNode e, .toController e, .toNode e, .toController e,
    .confirmDsk (PublicKey.ascii "7"), .elsewhere (.nodeIncluded 8 [securityTwo] sampleKeyPair),
    .confirmDsk (PublicKey.ascii (PublicKey.dskPin sampleNode.keyPair.publicKey)), .askAgain,
    .askAgain, .toController e, .toNode e, .toController e, .toController e, .toNode e] ++
  (List.replicate 6 [.toController e, .toNode e]).flatten ++ [.toController e]

/-- The schedule runs to the end, and node 7 has the keys that it asked for. -/
theorem handshake_completes_sample :
    let begun := start OpenSsl.standIn (some Bootstrap.sampleKeys) { keysReady := true } sampleNode
      [securityTwo] sampleKeyPair
    (emitted (step OpenSsl.standIn (some Bootstrap.sampleKeys)) begun sampleSchedule).filter
        (BootstrapOutput.recordsFor 7) =
      [.setSecurityScheme 7 .s2AccessControl, .nodeSecurityStatus 7 .s2AccessControl] := by
  have hagrees : Agrees OpenSsl.standIn Bootstrap.sampleKeys { keysReady := true } sampleKeyPair
      sampleNode (Vector.replicate 32 4) :=
    ⟨rfl, rfl, rfl, rfl, by decide, by decide +kernel, by decide +kernel, by decide +kernel⟩
  have horderly : OrderlyRun OpenSsl.standIn Bootstrap.sampleKeys
      (start OpenSsl.standIn (some Bootstrap.sampleKeys) { keysReady := true } sampleNode
        [securityTwo] sampleKeyPair) sampleSchedule := by
    unfold OrderlyRun
    decide +kernel
  exact (handshake_completes OpenSsl.standIn_ccmInverse hagrees rfl
    (by decide) sampleSchedule horderly).2.1 (by decide +kernel)

end Handshake

end Zwaved.S2
