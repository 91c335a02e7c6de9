import Zwaved.S2.KeyRelease

/-!
# The prompt for the operator

DSKPendingConfirmation is retained: whoever subscribes is shown the last prompt that was published.
There is one prompt for all sessions. It is raised when a session starts to wait for its PIN and
retracted when a PIN is confirmed; when a waiting session is replaced by a new inclusion nothing is
published. So the prompt is right (`Prompted.NamesWaiting`) exactly in the runs in which no session
is restarted while the prompt names it, and none is confirmed while another one waits
(`namesWaiting_iff`).
-/

namespace Zwaved.S2

open Reactive

/-- The prompt that an output publishes. -/
def BootstrapOutput.prompt? : BootstrapOutput → Option (NodeId × String)
  | .dskPendingConfirmation nodeId dsk => some (nodeId, dsk)
  | _ => none

/-- The last prompt among the outputs. -/
def lastPrompt (outputs : List BootstrapOutput) : Option (NodeId × String) :=
  (outputs.filterMap BootstrapOutput.prompt?).getLast?

/-- The orchestrator and the prompt that is retained. -/
structure Prompted where
  /-- The orchestrator. -/
  bootstrap : Bootstrap := {}
  /-- The retained prompt, if one was ever published. -/
  prompt : Option (NodeId × String) := none

/-- The node's session waits for its PIN. -/
def Bootstrap.Waits (s : Bootstrap) (nodeId : NodeId) : Prop :=
  ∃ session ∈ s.sessions nodeId, session.phase = .awaitDsk

instance (s : Bootstrap) : DecidablePred s.Waits :=
  fun nodeId => inferInstanceAs (Decidable (∃ _ ∈ s.sessions nodeId, _))

namespace Prompted

/-- An event, and what it leaves of the prompt. -/
def step (ssl : OpenSsl) (keys : Option NetworkKeys.KeySet) (s : Prompted)
    (event : BootstrapEvent) : Prompted × List BootstrapOutput :=
  let (bootstrap, outputs) := s.bootstrap.step ssl keys event
  ({ bootstrap, prompt := (lastPrompt outputs).or s.prompt }, outputs)

/-- A prompt that is not empty names a node that waits, and while a node waits there is one. -/
structure NamesWaiting (s : Prompted) : Prop where
  /-- The named node waits. -/
  waits : ∀ nodeId dsk, s.prompt = some (nodeId, dsk) → dsk ≠ "" → s.bootstrap.Waits nodeId
  /-- Somebody is named. -/
  named : ∀ nodeId, s.bootstrap.Waits nodeId → ∃ other dsk, s.prompt = some (other, dsk) ∧ dsk ≠ ""

/-- The event takes a session out of its wait without putting the prompt right: the node that is
named is included again, or a node is confirmed while another one waits. -/
def Disturbs (taken : Taken Prompted BootstrapEvent) : Prop :=
  match taken.input with
  | .nodeIncluded nodeId commandClasses _ =>
    (securityTwo ∈ commandClasses ∧ taken.before.bootstrap.keysReady = true) ∧
      taken.before.bootstrap.Waits nodeId ∧
      ∃ dsk, taken.before.prompt = some (nodeId, dsk) ∧ dsk ≠ ""
  | .confirmDsk nodeId pin =>
    (taken.before.bootstrap.Waits nodeId ∧ (PublicKey.parsePin pin).isSome) ∧
      ∃ other ≠ nodeId, taken.before.bootstrap.Waits other
  | _ => False

end Prompted

namespace Bootstrap

variable {nodeId : NodeId} {s s' : Bootstrap} {session : Session}

/-! ## The handlers -/

/-- The node does not wait afterwards, the others wait as before, and nothing is prompted. -/
structure Leaves (nodeId : NodeId) (s : Bootstrap) (result : Bootstrap × List BootstrapOutput) :
    Prop where
  /-- Who waits. -/
  waits : ∀ other, result.1.Waits other ↔ other ≠ nodeId ∧ s.Waits other
  /-- Nothing is prompted. -/
  outputs : ∀ out ∈ result.2, out.prompt? = none

/-- States with the same sessions have the same nodes waiting. -/
theorem waits_congr (h : s'.sessions = s.sessions) (other : NodeId) :
    s'.Waits other ↔ s.Waits other := by
  rw [Waits, Waits, h]

/-- A node whose session is in another phase does not wait. -/
theorem not_waits (hs : s.sessions nodeId = some session) (hphase : session.phase ≠ .awaitDsk) :
    ¬ s.Waits nodeId := by
  rintro ⟨found, hfound, hwaits⟩
  rw [hs] at hfound
  obtain rfl := Option.some.inj hfound
  exact hphase hwaits

/-- With a session stored, its node waits if that session's phase says so, and the others as
before. -/
theorem waits_setSession (s : Bootstrap) (session : Session) (other : NodeId) :
    (s.setSession nodeId session).Waits other ↔
      (other = nodeId ∧ session.phase = .awaitDsk) ∨ (other ≠ nodeId ∧ s.Waits other) := by
  unfold Waits
  by_cases hother : other = nodeId
  · subst hother
    rw [sessions_setSession]
    simp
  · have hsame : (s.setSession nodeId session).sessions other = s.sessions other :=
      Function.update_of_ne hother ..
    rw [hsame]
    simp [hother]

/-- With a session dropped, its node does not wait, and the others as before. -/
theorem waits_eraseSession (s : Bootstrap) (other : NodeId) :
    (s.eraseSession nodeId).Waits other ↔ other ≠ nodeId ∧ s.Waits other := by
  unfold Waits
  by_cases hother : other = nodeId
  · subst hother
    rw [sessions_eraseSession]
    simp
  · have hsame : (s.eraseSession nodeId).sessions other = s.sessions other :=
      Function.update_of_ne hother ..
    rw [hsame]
    simp [hother]

/-- A handler that leaves the sessions and prompts nothing leaves a node that does not wait not
waiting. -/
theorem leaves_of_sessions (hidle : ¬ s.Waits nodeId) (h : s'.sessions = s.sessions)
    {outputs : List BootstrapOutput} (hout : ∀ out ∈ outputs, out.prompt? = none) :
    Leaves nodeId s (s', outputs) := by
  refine ⟨fun other => ?_, hout⟩
  rw [waits_congr h]
  exact ⟨fun hother => ⟨fun heq => hidle (heq ▸ hother), hother⟩, And.right⟩

/-- A handler that moves the node's session on to another phase than the wait, and prompts nothing,
leaves it not waiting. -/
theorem leaves_setSession (nodeId : NodeId) (h : s'.sessions = s.sessions) (session : Session)
    (hphase : session.phase ≠ .awaitDsk) {outputs : List BootstrapOutput}
    (hout : ∀ out ∈ outputs, out.prompt? = none) :
    Leaves nodeId s (s'.setSession nodeId session, outputs) := by
  refine ⟨fun other => ?_, hout⟩
  rw [waits_setSession, waits_congr h]
  exact ⟨fun hother => hother.resolve_left fun hnode => hphase hnode.2, Or.inr⟩

/-- A handler that ends the node's session and prompts nothing leaves it not waiting. -/
theorem leaves_eraseSession (nodeId : NodeId) (h : s'.sessions = s.sessions)
    {outputs : List BootstrapOutput} (hout : ∀ out ∈ outputs, out.prompt? = none) :
    Leaves nodeId s (s'.eraseSession nodeId, outputs) := by
  refine ⟨fun other => ?_, hout⟩
  rw [waits_eraseSession, waits_congr h]

/-- A plaintext frame prompts nothing. -/
theorem prompt?_plaintext (nodeId : NodeId) (payload : Bytes) :
    ∀ out ∈ [BootstrapOutput.sendPlaintext nodeId payload], out.prompt? = none := by
  intro out hout
  obtain rfl := List.mem_singleton.mp hout
  rfl

variable (ssl : OpenSsl) (keys : Option NetworkKeys.KeySet)

/-- Sending an encrypted frame leaves the sessions. -/
theorem sessions_sendEncrypted (s : Bootstrap) (nodeId : NodeId) (inner : Bytes)
    (sei : EntropyInput) : (s.sendEncrypted ssl nodeId inner sei).1.sessions = s.sessions :=
  (sendEncrypted_spec ssl s nodeId inner sei).1.sessions

/-- An encrypted frame, or the failure to make one, prompts nothing. -/
theorem prompt?_sendEncrypted (s : Bootstrap) (nodeId : NodeId) (inner : Bytes)
    (sei : EntropyInput) : ∀ out ∈ (s.sendEncrypted ssl nodeId inner sei).2, out.prompt? = none := by
  intro out hout
  unfold sendEncrypted at hout
  split at hout
  · cases hout
  · obtain rfl := List.mem_singleton.mp hout
    rfl

/-- The end of the key agreement takes the node out of its wait, or leaves it out, and prompts
nothing: the session ends or goes on to the echoed KEX_SET. -/
theorem leaves_finishKeyAgreement (s : Bootstrap) (nodeId : NodeId) (session : Session) :
    Leaves nodeId s (s.finishKeyAgreement ssl nodeId session) := by
  unfold finishKeyAgreement
  cases ssl.x25519 session.keyPair.privateKey session.nodePublicKey with
  | none => exact leaves_eraseSession nodeId rfl (prompt?_plaintext nodeId _)
  | some shared =>
    have hset (tempKeys : KeyDerivation.TempKeys) := @leaves_setSession s s nodeId rfl
      { session with tempKeys, phase := .awaitTempChannel }
      (show Phase.awaitTempChannel ≠ .awaitDsk by decide) [] (fun _ => nofun)
    refine ⟨(hset _).waits, fun out hout => ?_⟩
    obtain rfl := List.mem_singleton.mp hout
    rfl

/-- A KEX_REPORT of a node that does not wait leaves it so and prompts nothing. -/
theorem leaves_onKexReport (hidle : ¬ s.Waits nodeId) (session : Session) (ccData : Bytes) :
    Leaves nodeId s (s.onKexReport nodeId session ccData) := by
  unfold onKexReport
  split
  · exact leaves_of_sessions hidle rfl (fun _ => nofun)
  · dsimp only
    split
    · exact leaves_eraseSession nodeId rfl (prompt?_plaintext nodeId _)
    · exact leaves_setSession nodeId rfl _ (show Phase.awaitPublicKey ≠ .awaitDsk by decide)
        (prompt?_plaintext nodeId _)

/-- An answered NONCE_GET on the temporary channel prompts nothing, and its node awaits the echo. -/
theorem leaves_onTempNonceGet (s : Bootstrap) (nodeId : NodeId) (session : Session)
    (rei : EntropyInput) : Leaves nodeId s (s.onTempNonceGet nodeId session rei) := by
  unfold onTempNonceGet
  refine leaves_setSession nodeId ?_ _ (show Phase.awaitKexSetEcho ≠ .awaitDsk by decide)
    (prompt?_plaintext nodeId _)
  rfl

/-- An answered NONCE_GET on a class channel prompts nothing, and its node awaits the verify. -/
theorem leaves_onClassNonceGet (s : Bootstrap) (nodeId : NodeId) (session : Session)
    (rei : EntropyInput) : Leaves nodeId s (s.onClassNonceGet nodeId session rei) := by
  unfold onClassNonceGet
  refine leaves_setSession nodeId ?_ _ (show Phase.awaitKeyVerify ≠ .awaitDsk by decide)
    (prompt?_plaintext nodeId _)
  rfl

/-- The echoed KEX_SET of a node that does not wait leaves it so and prompts nothing. -/
theorem leaves_onKexSetEcho (hidle : ¬ s.Waits nodeId) (session : Session) (frame : Bytes)
    (sei : EntropyInput) : Leaves nodeId s (s.onKexSetEcho ssl nodeId session frame sei) := by
  obtain ⟨-, hsame, -⟩ := decryptInbound_spec ssl s nodeId session frame
  unfold onKexSetEcho
  rcases hdecrypt : s.decryptInbound ssl nodeId session frame with ⟨_ | inner, s₁⟩ <;>
    rw [hdecrypt] at hsame
  · exact leaves_of_sessions hidle hsame.sessions (fun _ => nofun)
  · have hsessions (inner : Bytes) :=
      (sessions_sendEncrypted ssl s₁ nodeId inner sei).trans hsame.sessions
    dsimp only
    split
    · exact leaves_setSession nodeId (hsessions _) _
        (show Phase.awaitNetworkKeyGet ≠ .awaitDsk by decide)
        (prompt?_sendEncrypted ssl s₁ nodeId _ sei)
    · exact leaves_eraseSession nodeId (hsessions _) (prompt?_sendEncrypted ssl s₁ nodeId _ sei)

/-- A key request of a node that does not wait leaves it so and prompts nothing. -/
theorem leaves_onKeyGet (hidle : ¬ s.Waits nodeId) (h : s'.sessions = s.sessions)
    (session : Session) (bit : UInt8) (sei : EntropyInput) :
    Leaves nodeId s (s'.onKeyGet ssl keys nodeId session bit sei) := by
  have hsessions (inner : Bytes) := (sessions_sendEncrypted ssl s' nodeId inner sei).trans h
  unfold onKeyGet
  split
  · exact leaves_eraseSession nodeId (hsessions _) (prompt?_sendEncrypted ssl s' nodeId _ sei)
  · split
    · exact leaves_of_sessions hidle h (fun _ => nofun)
    · exact leaves_setSession nodeId (hsessions _) _
        (show Phase.awaitClassNonceGet ≠ .awaitDsk by decide)
        (prompt?_sendEncrypted ssl s' nodeId _ sei)

/-- A frame on the temporary channel of a node that does not wait leaves it so and prompts
nothing. -/
theorem leaves_onTempChannelKeyExchange (hidle : ¬ s.Waits nodeId) (session : Session)
    (frame : Bytes) (sei : EntropyInput) :
    Leaves nodeId s (s.onTempChannelKeyExchange ssl keys nodeId session frame sei) := by
  obtain ⟨-, hsame, -⟩ := decryptInbound_spec ssl s nodeId session frame
  unfold onTempChannelKeyExchange
  -- The frame does not open, or it opens and leaves the sessions as they are.
  rcases hdecrypt : s.decryptInbound ssl nodeId session frame with ⟨_ | inner, s₁⟩ <;>
    rw [hdecrypt] at hsame
  · exact leaves_of_sessions hidle hsame.sessions (fun _ => nofun)
  · have hleft : Leaves nodeId s (s₁, []) :=
      leaves_of_sessions hidle hsame.sessions (fun _ => nofun)
    dsimp only
    split
    · split
      · exact hleft
      · split
        -- The end of the transfer erases a session that is not waiting for the operator.
        · refine leaves_eraseSession nodeId hsame.sessions fun out hout => ?_
          rcases List.mem_cons.mp hout with rfl | hout
          · rfl
          · obtain rfl := List.mem_singleton.mp hout
            rfl
        · exact hleft
    -- A request for a key goes on with the session in another phase than that.
    · split
      · split
        · exact hleft
        · exact leaves_onKeyGet ssl keys hidle hsame.sessions session _ sei
      · exact hleft

/-- The verify of a node that does not wait leaves it so and prompts nothing. -/
theorem leaves_onKeyVerify (hidle : ¬ s.Waits nodeId) (session : Session) (frame : Bytes)
    (sei : EntropyInput) : Leaves nodeId s (s.onKeyVerify ssl nodeId session frame sei) := by
  unfold onKeyVerify
  rcases s.classSpanManager.receiveNonce ssl nodeId frame with ⟨_ | nonce, classSpanManager⟩
  · have hsessions : ({ s with classSpanManager } : Bootstrap).sessions = s.sessions := rfl
    exact leaves_of_sessions hidle hsessions (fun _ => nofun)
  · have hsessions (inner : Bytes) :
        (sendEncrypted ssl { s with classSpanManager } nodeId inner sei).1.sessions = s.sessions :=
      sessions_sendEncrypted ssl _ nodeId inner sei
    dsimp only
    split
    · exact leaves_eraseSession nodeId (hsessions _) (prompt?_sendEncrypted ssl _ nodeId _ sei)
    · exact leaves_setSession nodeId (hsessions _) _
        (show Phase.awaitNetworkKeyGet ≠ .awaitDsk by decide)
        (prompt?_sendEncrypted ssl _ nodeId _ sei)

/-- The node waits afterwards, and it is prompted for last. -/
structure Asks (nodeId : NodeId) (s : Bootstrap) (result : Bootstrap × List BootstrapOutput) :
    Prop where
  /-- The node waits. -/
  waits : result.1.Waits nodeId
  /-- The last prompt names it. -/
  prompt : ∃ dsk, lastPrompt result.2 = some (nodeId, dsk) ∧ dsk ≠ ""

/-- The DSK is shown with all its digits. -/
theorem dskString_ne_empty (key : PublicKey) : PublicKey.dskString key ≠ "" := by
  intro h
  have hchars := congrArg String.toList h
  simp [PublicKey.dskString, List.range, List.range.loop] at hchars

/-- A public key report either fails, and then prompts nothing, or makes its node wait and prompts
for it. These are the two branches of the handler. -/
theorem onPublicKeyReport_leaves_or_asks (hidle : ¬ s.Waits nodeId) (session : Session)
    (ccData : Bytes) :
    Leaves nodeId s (s.onPublicKeyReport ssl nodeId session ccData) ∨
      Asks nodeId s (s.onPublicKeyReport ssl nodeId session ccData) := by
  unfold onPublicKeyReport
  split
  · exact Or.inl (leaves_of_sessions hidle rfl (fun _ => nofun))
  · next report hreport =>
    dsimp only
    split
    · refine Or.inr ⟨?_, PublicKey.dskString report.key, rfl, dskString_ne_empty report.key⟩
      exact (waits_setSession s _ nodeId).mpr (Or.inl ⟨rfl, rfl⟩)
    · have hfinish :=
        leaves_finishKeyAgreement ssl s nodeId { session with nodePublicKey := report.key }
      refine Or.inl ⟨hfinish.waits, fun out hout => ?_⟩
      rcases List.mem_cons.mp hout with rfl | hout
      · rfl
      · exact hfinish.outputs out hout

/-- Nothing changes for those who wait, and nothing is prompted. -/
structure Undisturbed (s : Bootstrap) (result : Bootstrap × List BootstrapOutput) : Prop where
  /-- Who waits. -/
  waits : ∀ other, result.1.Waits other ↔ s.Waits other
  /-- Nothing is prompted. -/
  outputs : ∀ out ∈ result.2, out.prompt? = none

/-- A handler that does nothing leaves the prompt right. -/
theorem Undisturbed.refl (s : Bootstrap) : Undisturbed s (s, []) :=
  ⟨fun _ => Iff.rfl, fun _ => nofun⟩

/-- A handler that prompts nothing and takes no waiting node out of its wait leaves the prompt
right. -/
theorem Leaves.undisturbed {result : Bootstrap × List BootstrapOutput}
    (h : Leaves nodeId s result) (hidle : ¬ s.Waits nodeId) : Undisturbed s result := by
  refine ⟨fun other => (h.waits other).trans ⟨And.right, fun hother => ⟨?_, hother⟩⟩, h.outputs⟩
  rintro rfl
  exact hidle hother

/-- A command for a session that does not wait leaves it so and prompts nothing, or is the public
key report that makes it wait. -/
theorem onSessionCommand_leaves_or_asks (hs : s.sessions nodeId = some session)
    (hphase : session.phase ≠ .awaitDsk) (ccData : Bytes) (entropy : EntropyInput)
    (command : UInt8) :
    Leaves nodeId s (s.onSessionCommand ssl keys nodeId session ccData entropy command) ∨
      Asks nodeId s (s.onSessionCommand ssl keys nodeId session ccData entropy command) := by
  -- The session is in another phase, so this node is not waiting.
  have hidle := not_waits hs hphase
  have hleft : Leaves nodeId s (s, []) := leaves_of_sessions hidle rfl (fun _ => nofun)
  unfold onSessionCommand
  -- The phases in the order of the source. Only the public key makes the node ask.
  cases hcase : session.phase with
  | awaitKexReport =>
    dsimp only
    split
    · exact Or.inl (leaves_onKexReport hidle session ccData)
    · exact Or.inl hleft
  | awaitPublicKey =>
    dsimp only
    split
    · exact onPublicKeyReport_leaves_or_asks ssl hidle session ccData
    · exact Or.inl hleft
  -- Only the operator moves this phase on.
  | awaitDsk => exact absurd hcase hphase
  | awaitTempChannel =>
    dsimp only
    split
    · exact Or.inl (leaves_onTempNonceGet s nodeId session entropy)
    · exact Or.inl hleft
  | awaitKexSetEcho =>
    dsimp only
    split
    · exact Or.inl (leaves_onKexSetEcho ssl hidle session ccData entropy)
    · exact Or.inl hleft
  | awaitNetworkKeyGet =>
    dsimp only
    split
    · exact Or.inl (leaves_onTempChannelKeyExchange ssl keys hidle session ccData entropy)
    · exact Or.inl hleft
  | awaitClassNonceGet =>
    dsimp only
    split
    · exact Or.inl (leaves_onClassNonceGet s nodeId session entropy)
    · exact Or.inl hleft
  | awaitKeyVerify =>
    dsimp only
    split
    · exact Or.inl (leaves_onKeyVerify ssl hidle session ccData entropy)
    · exact Or.inl hleft

/-- An application command leaves the waiting nodes and the prompt, or its source starts to wait and
is prompted for. -/
theorem onApplicationCommand_undisturbed_or_asks (s : Bootstrap) (nodeId : NodeId)
    (ccData : Bytes) (entropy : EntropyInput) :
    Undisturbed s (s.onApplicationCommand ssl keys nodeId ccData entropy) ∨
      Asks nodeId s (s.onApplicationCommand ssl keys nodeId ccData entropy) := by
  unfold onApplicationCommand
  cases hs : s.sessions nodeId with
  | none => exact Or.inl (.refl s)
  | some session =>
    dsimp only
    cases commandByte ccData with
    | none => exact Or.inl (.refl s)
    | some command =>
      by_cases hphase : session.phase = .awaitDsk
      · -- Only the operator moves this phase on.
        refine Or.inl ?_
        unfold onSessionCommand
        rw [hphase]
        exact .refl s
      · rcases onSessionCommand_leaves_or_asks ssl keys hs hphase ccData entropy command with
          hleaves | hasks
        -- The node was not waiting, and is not now, so the prompt is not about it.
        · exact Or.inl (hleaves.undisturbed (not_waits hs hphase))
        · exact Or.inr hasks

/-- A well-formed PIN ends the wait of its node, leaves the others waiting and clears the prompt,
for whomever that was. -/
theorem onConfirmDsk_of_waits (hwaits : s.Waits nodeId) {pin : Bytes}
    (hpin : (PublicKey.parsePin pin).isSome) :
    (∀ other, (s.onConfirmDsk ssl nodeId pin).1.Waits other ↔ other ≠ nodeId ∧ s.Waits other) ∧
      lastPrompt (s.onConfirmDsk ssl nodeId pin).2 = some (0, "") := by
  obtain ⟨session, hs, hphase⟩ := hwaits
  obtain ⟨value, hvalue⟩ := Option.isSome_iff_exists.mp hpin
  unfold onConfirmDsk
  rw [hs]
  dsimp only
  rw [if_neg (not_not_intro hphase), hvalue]
  have hfinish := leaves_finishKeyAgreement ssl s nodeId
    { session with nodePublicKey := PublicKey.applyPin session.nodePublicKey value }
  refine ⟨hfinish.waits, ?_⟩
  dsimp only [lastPrompt]
  rw [List.filterMap_cons_some (f := BootstrapOutput.prompt?) rfl,
    List.filterMap_eq_nil_iff.mpr hfinish.outputs]
  rfl

/-- A PIN that is not well formed, or for a node that does not wait, is ignored. -/
theorem onConfirmDsk_of_not {pin : Bytes} (h : ¬ (s.Waits nodeId ∧ (PublicKey.parsePin pin).isSome)) :
    s.onConfirmDsk ssl nodeId pin = (s, []) := by
  unfold onConfirmDsk
  cases hs : s.sessions nodeId with
  | none => rfl
  | some session =>
    dsimp only
    by_cases hphase : session.phase = .awaitDsk
    · rw [if_neg (not_not_intro hphase)]
      cases hpin : PublicKey.parsePin pin with
      | none => rfl
      | some value => exact absurd ⟨⟨session, hs, hphase⟩, by rw [hpin]; rfl⟩ h
    · rw [if_pos hphase]

end Bootstrap

/-! ## The run -/

namespace Prompted

variable {ssl : OpenSsl} {keys : Option NetworkKeys.KeySet} {s : Prompted}

/-- Outputs that prompt nothing have no last prompt. -/
theorem lastPrompt_eq_none {outputs : List BootstrapOutput}
    (h : ∀ out ∈ outputs, out.prompt? = none) : lastPrompt outputs = none := by
  rw [lastPrompt, List.filterMap_eq_nil_iff.mpr h]
  rfl

/-- The prompt stays right through a handler that changes nobody's waiting and prompts nothing. -/
theorem NamesWaiting.of_undisturbed {result : Bootstrap × List BootstrapOutput}
    (h : s.NamesWaiting) (hresult : Bootstrap.Undisturbed s.bootstrap result) :
    NamesWaiting ⟨result.1, (lastPrompt result.2).or s.prompt⟩ := by
  rw [lastPrompt_eq_none hresult.outputs, Option.none_or]
  refine ⟨fun nodeId dsk hprompt hdsk => ?_, fun nodeId hwaits => ?_⟩
  · exact (hresult.waits nodeId).mpr (h.waits nodeId dsk hprompt hdsk)
  · exact h.named nodeId ((hresult.waits nodeId).mp hwaits)

/-- The prompt is right after a handler that has made a node wait and prompted for it. -/
theorem namesWaiting_of_asks {nodeId : NodeId} {result : Bootstrap × List BootstrapOutput}
    (hresult : Bootstrap.Asks nodeId s.bootstrap result) :
    NamesWaiting ⟨result.1, (lastPrompt result.2).or s.prompt⟩ := by
  obtain ⟨dsk, hlast, hdsk⟩ := hresult.prompt
  rw [hlast, Option.some_or]
  refine ⟨fun other dsk' hprompt _ => ?_, fun other _ => ⟨nodeId, dsk, rfl, hdsk⟩⟩
  obtain ⟨rfl, -⟩ := Prod.mk.inj (Option.some.inj hprompt)
  exact hresult.waits

/-- An inclusion restarts the session of its node and leaves the prompt. -/
theorem namesWaiting_nodeIncluded (h : s.NamesWaiting) (nodeId : NodeId) (commandClasses : Bytes)
    (keyPair : KeyPair) :
    (s.step ssl keys (.nodeIncluded nodeId commandClasses keyPair)).1.NamesWaiting ↔
      ¬ Disturbs ⟨s, .nodeIncluded nodeId commandClasses keyPair⟩ := by
  unfold step Bootstrap.step Bootstrap.onNodeIncluded Disturbs
  dsimp only
  split
  · next hclass =>
    have hundisturbed := h.of_undisturbed (.refl s.bootstrap)
    exact iff_of_true hundisturbed fun hdisturbs => hclass hdisturbs.1.1
  · split
    · next hready =>
      have hundisturbed := h.of_undisturbed (.refl s.bootstrap)
      refine iff_of_true hundisturbed fun hdisturbs => ?_
      rw [hdisturbs.1.2] at hready
      cases hready
    · next hclass hready =>
      -- Everybody else waits as before.
      have hwaits : ∀ other, (s.bootstrap.setSession nodeId { keyPair }).Waits other ↔
          other ≠ nodeId ∧ s.bootstrap.Waits other := fun other =>
        (Bootstrap.waits_setSession s.bootstrap { keyPair } other).trans
          ⟨fun hother => hother.resolve_left fun hnode => Phase.noConfusion hnode.2, Or.inr⟩
      constructor
      · rintro hnames ⟨-, -, dsk, hprompt, hdsk⟩
        exact ((hwaits nodeId).mp (hnames.waits nodeId dsk hprompt hdsk)).1 rfl
      · intro hundisturbed
        refine ⟨fun other dsk hprompt hdsk => ?_, fun other hother => ?_⟩
        · have hother := h.waits other dsk hprompt hdsk
          refine (hwaits other).mpr ⟨?_, hother⟩
          rintro rfl
          exact hundisturbed ⟨⟨not_not.mp hclass, by simpa using hready⟩, hother, dsk, hprompt, hdsk⟩
        · exact h.named other ((hwaits other).mp hother).2

/-- A confirmation ends the wait of its node and retracts the prompt. -/
theorem namesWaiting_confirmDsk (h : s.NamesWaiting) (nodeId : NodeId) (pin : Bytes) :
    (s.step ssl keys (.confirmDsk nodeId pin)).1.NamesWaiting ↔
      ¬ Disturbs ⟨s, .confirmDsk nodeId pin⟩ := by
  unfold step Bootstrap.step Disturbs
  dsimp only
  by_cases haccepted : s.bootstrap.Waits nodeId ∧ (PublicKey.parsePin pin).isSome
  -- The PIN is accepted: the session goes on and the prompt is cleared.
  · obtain ⟨hwaits, hlast⟩ := Bootstrap.onConfirmDsk_of_waits ssl haccepted.1 haccepted.2
    rw [hlast, Option.some_or]
    constructor
    -- A node that still waits would be named by a prompt, which has just been cleared.
    · rintro hnames ⟨-, other, hne, hother⟩
      obtain ⟨named, dsk, hprompt, hdsk⟩ := hnames.named other ((hwaits other).mpr ⟨hne, hother⟩)
      obtain ⟨-, rfl⟩ := Prod.mk.inj (Option.some.inj hprompt)
      exact hdsk rfl
    · intro hundisturbed
      -- Nobody else waits, as otherwise the clearing would have disturbed them.
      refine ⟨fun other dsk hprompt hdsk => ?_, fun other hother => ?_⟩
      · obtain ⟨-, rfl⟩ := Prod.mk.inj (Option.some.inj hprompt)
        exact absurd rfl hdsk
      · obtain ⟨hne, hwaiting⟩ := (hwaits other).mp hother
        exact absurd ⟨haccepted, other, hne, hwaiting⟩ hundisturbed
  -- A confirmation that is not accepted changes nothing.
  · rw [Bootstrap.onConfirmDsk_of_not ssl haccepted]
    have hundisturbed := h.of_undisturbed (.refl s.bootstrap)
    exact iff_of_true hundisturbed fun hdisturbs => haccepted hdisturbs.1

/-- A step keeps the prompt right exactly when it does not disturb it. -/
theorem namesWaiting_step (ssl : OpenSsl) (keys : Option NetworkKeys.KeySet) (s : Prompted)
    (event : BootstrapEvent) (h : s.NamesWaiting) :
    (s.step ssl keys event).1.NamesWaiting ↔ ¬ Disturbs ⟨s, event⟩ := by
  cases event with
  | nodeIncluded nodeId commandClasses keyPair =>
    exact namesWaiting_nodeIncluded h nodeId commandClasses keyPair
  | applicationCommand nodeId ccData entropy =>
    refine iff_of_true ?_ not_false
    rcases Bootstrap.onApplicationCommand_undisturbed_or_asks ssl keys s.bootstrap nodeId ccData
      entropy with hundisturbed | hasks
    · exact h.of_undisturbed hundisturbed
    · exact namesWaiting_of_asks hasks
  | confirmDsk nodeId pin => exact namesWaiting_confirmDsk h nodeId pin
  | dongleInfo | s2NetworkKeysReady => exact iff_of_true ⟨h.waits, h.named⟩ not_false

/-- The prompt is right in every state that a run reaches if and only if no step of the run disturbs
it. -/
theorem namesWaiting_iff (ssl : OpenSsl) (keys : Option NetworkKeys.KeySet)
    (events : List BootstrapEvent) :
    (∀ reached, reached <+: events → (exec (step ssl keys) {} reached).NamesWaiting) ↔
      ∀ taken ∈ trace (step ssl keys) {} events, ¬ Disturbs taken := by
  refine forall_reached_iff (step ssl keys) {} ⟨?_, ?_⟩ (namesWaiting_step ssl keys) events
  · rintro nodeId dsk ⟨⟩
  · rintro nodeId ⟨session, ⟨⟩, -⟩

/-- Node 7 asks for the Authenticated class, and is included again while it waits for its PIN. -/
def restartedRun : List BootstrapEvent :=
  [.s2NetworkKeysReady true, .nodeIncluded 7 [securityTwo] Bootstrap.sampleKeyPair,
    .applicationCommand 7 (Kex.encodeReport
      { Bootstrap.sampleReport with requestedKeys := Kex.keyS2Authenticated })
      Bootstrap.sampleEntropy,
    .applicationCommand 7 (PublicKey.encode false Bootstrap.sampleNodeKey PublicKey.obfuscateNone)
      Bootstrap.sampleEntropy,
    .nodeIncluded 7 [securityTwo] Bootstrap.sampleKeyPair]

/-- The prompt still names node 7, which waits for no PIN. -/
theorem not_namesWaiting_restarted :
    ¬ (exec (step OpenSsl.standIn (some Bootstrap.sampleKeys)) {} restartedRun).NamesWaiting := by
  intro h
  have hprompt : (exec (step OpenSsl.standIn (some Bootstrap.sampleKeys)) {} restartedRun).prompt =
      some (7, PublicKey.dskString Bootstrap.sampleNodeKey) := by
    decide +kernel
  have hidle : ¬ (exec (step OpenSsl.standIn (some Bootstrap.sampleKeys)) {}
      restartedRun).bootstrap.Waits 7 := by
    decide +kernel
  exact hidle (h.waits 7 _ hprompt (Bootstrap.dskString_ne_empty _))

end Prompted

end Zwaved.S2
