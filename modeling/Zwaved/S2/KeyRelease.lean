import Zwaved.S2.BootstrapStep

/-!
# Who is given a network key

Whenever the bootstrap reports a network key to a node, the node has earned it in the session that
is under way: its KEX_REPORT was granted the class, the operator confirmed its DSK where the grant
asks for that, a frame under the temporary key of the session echoed the grant, and the report goes
out under that same key.

The proof is an invariant between the history and the sessions. `Evidence` says, phase by phase,
what the history since the session was opened must contain; `Evidence.outcome` that whatever an
event does to the session, the longer history contains what the next phase asks for. A session is
opened by a NodeIncluded that names S2 while the keys are ready, and stays through a later
NodeIncluded that does not (the source keeps a stalled handshake in its map), so "since the last
NodeIncluded" would be wrong: `released_after_reinclusion` is such a run.
-/

namespace Zwaved.S2.Bootstrap

open Reactive

variable (ssl : OpenSsl) (keys : Option NetworkKeys.KeySet)

/-- A step of the bootstrap, in a history. -/
abbrev Step := Taken Bootstrap BootstrapEvent

/-- The output reports a network key to the node, in the clear or inside a frame. -/
def ReportsKey (nodeId : NodeId) (report : KeyInstall.KeyReport) : BootstrapOutput → Prop
  | .sendPlaintext node payload => node = nodeId ∧ KeyInstall.decodeKeyReport payload = some report
  | .sendEncrypted node inner _ => node = nodeId ∧ KeyInstall.decodeKeyReport inner = some report
  | _ => False

instance (nodeId : NodeId) (report : KeyInstall.KeyReport) :
    DecidablePred (ReportsKey nodeId report)
  | .sendPlaintext _ _ => inferInstanceAs (Decidable (_ ∧ _))
  | .sendEncrypted _ _ _ => inferInstanceAs (Decidable (_ ∧ _))
  | .dskPendingConfirmation _ _ | .s2KeyAgreementComplete _ | .setSecurityScheme _ _
  | .nodeSecurityStatus _ _ => inferInstanceAs (Decidable False)

/-- A KEX_REPORT of the node is granted `granted`, and the KEX_SET that says so goes out. -/
def Grants (nodeId : NodeId) (kexReport : Kex.Report) (granted : UInt8) (taken : Step) : Prop :=
  ∃ ccData entropy, taken.input = .applicationCommand nodeId ccData entropy ∧
    Kex.decodeReport ccData = some kexReport ∧
    Kex.grantKeys kexReport controllerSupportedKeys = granted ∧
    .sendPlaintext nodeId (Kex.encodeSet (kexSetFor granted)) ∈
      (taken.before.step ssl keys taken.input).2

/-- The node reports its public key. -/
def ReceivesPublicKey (nodeId : NodeId) (key : PublicKey) (taken : Step) : Prop :=
  ∃ ccData entropy report, taken.input = .applicationCommand nodeId ccData entropy ∧
    PublicKey.decode ccData = some report ∧ report.key = key

/-- The operator confirms the DSK of the node with a well-formed PIN. -/
def ConfirmsDsk (nodeId : NodeId) (value : ℕ) (taken : Step) : Prop :=
  ∃ pin, taken.input = .confirmDsk nodeId pin ∧ PublicKey.parsePin pin = some value

/-- A frame of the node opens under `key` to the echo of `sent`. -/
def Echoes (nodeId : NodeId) (key : Key) (sent : Kex.Set) (taken : Step) : Prop :=
  ∃ ccData entropy inner, taken.input = .applicationCommand nodeId ccData entropy ∧
    taken.before.opened ssl nodeId key ccData = some inner ∧ EchoMatches inner sent

/-- `key` is the node's public key: as reported, or for a grant that needs the DSK as reported and
then completed by the operator's PIN. -/
def PublicKeyFrom (nodeId : NodeId) (granted : UInt8) (rest : List Step) (key : PublicKey) : Prop :=
  (granted &&& dskRequiredKeys = 0 ∧ ∃ taken ∈ rest, ReceivesPublicKey nodeId key taken) ∨
    ∃ reported pin, Precedes (ReceivesPublicKey nodeId reported) (ConfirmsDsk nodeId pin) rest ∧
      key = PublicKey.applyPin reported pin

/-- What `rest`, the history since the session was opened with `keyPair`, and the output that
reports a key to the node have to do with each other. -/
structure Authorised (nodeId : NodeId) (keyPair : KeyPair) (rest : List Step)
    (report : KeyInstall.KeyReport) (out : BootstrapOutput) (granted : UInt8)
    (tempKeys : KeyDerivation.TempKeys) : Prop where
  /-- The key is the network key of the class that the report names. -/
  classKey : classKeyForBit keys report.grantedKey = some report.key
  /-- The class is one that a KEX_REPORT of the node was granted; a node that asked for client-side
  authentication has not been granted Access Control. -/
  grants : ∃ taken ∈ rest, ∃ kexReport, Grants ssl keys nodeId kexReport granted taken ∧
    (kexReport.requestCsa = true → report.grantedKey ≠ Kex.keyS2AccessControl)
  /-- The grant has the bit of the class. -/
  contains : report.grantedKey &&& granted = report.grantedKey
  /-- A frame under the temporary key echoed the KEX_SET of the grant. -/
  echoes : ∃ taken ∈ rest, Echoes ssl nodeId tempKeys.keyCcm (kexSetFor granted) taken
  /-- A grant of Authenticated or Access Control was confirmed by the operator, after the node had
  reported its public key. -/
  dsk : granted &&& dskRequiredKeys ≠ 0 → ∃ reported pin,
    Precedes (ReceivesPublicKey nodeId reported) (ConfirmsDsk nodeId pin) rest
  /-- The temporary keys are those of the session: agreed between its key pair and the public key of
  the node. -/
  agreed : ∃ nodePublicKey, PublicKeyFrom nodeId granted rest nodePublicKey ∧
    AgreedKeys ssl keyPair nodePublicKey tempKeys
  /-- The report is the inner of a frame under the temporary key. -/
  encrypted : ∃ context nonce extensions,
    out = .sendEncrypted nodeId (KeyInstall.encodeKeyReport report.grantedKey report.key)
      (Encapsulation.encrypt ssl (KeyInstall.encodeKeyReport report.grantedKey report.key) context
        tempKeys.keyCcm nonce extensions)

/-- In a run, every report of a network key is authorised by what came since the last step that
`starts` the node. -/
def ReleasesSafely (starts : NodeId → Step → Prop) (events : List BootstrapEvent) : Prop :=
  ∀ pre event post, events = pre ++ event :: post → ∀ nodeId report,
    ∀ out ∈ ((exec (step ssl keys) {} pre).step ssl keys event).2, ReportsKey nodeId report out →
      ∃ start rest, Since (starts nodeId) (trace (step ssl keys) {} pre) start rest ∧
        ∃ commandClasses keyPair, start.input = .nodeIncluded nodeId commandClasses keyPair ∧
          ∃ granted tempKeys, Authorised ssl keys nodeId keyPair rest report out granted tempKeys

/-! ## The invariant -/

/-- What the history since a session was opened contains, as far as its phase tells. -/
structure Evidence (nodeId : NodeId) (rest : List Step) (session : Session) : Prop where
  /-- After KEX_REPORT: the grant, and the KEX_SET that was sent for it. -/
  grants : 1 ≤ session.phase.rank →
    session.sentKexSet = kexSetFor session.grantedKeys ∧
      ∃ taken ∈ rest, ∃ kexReport, Grants ssl keys nodeId kexReport session.grantedKeys taken
  /-- While the DSK is awaited: the public key, as the node reported it. -/
  publicKey : session.phase = .awaitDsk →
    ∃ taken ∈ rest, ReceivesPublicKey nodeId session.nodePublicKey taken
  /-- After the key agreement: the public key it was made with, and the temporary keys. -/
  agreed : 3 ≤ session.phase.rank →
    PublicKeyFrom nodeId session.grantedKeys rest session.nodePublicKey ∧
      AgreedKeys ssl session.keyPair session.nodePublicKey session.tempKeys
  /-- After the echo: the frame that carried it. -/
  echoes : 5 ≤ session.phase.rank →
    ∃ taken ∈ rest, Echoes ssl nodeId session.tempKeys.keyCcm session.sentKexSet taken

/-- Every session was opened in the history and has its evidence since. -/
def Evidenced (history : List Step) (s : Bootstrap) : Prop :=
  ∀ nodeId session, s.sessions nodeId = some session → ∃ start rest,
    Since (Opens nodeId) history start rest ∧
      (∃ commandClasses, start.input = .nodeIncluded nodeId commandClasses session.keyPair) ∧
      Evidence ssl keys nodeId rest session

variable {ssl keys} {nodeId : NodeId} {rest : List Step} {session : Session}

/-- A public key report that has come in has still come in after one more step. -/
theorem PublicKeyFrom.concat {granted : UInt8} {key : PublicKey}
    (h : PublicKeyFrom nodeId granted rest key) (taken : Step) :
    PublicKeyFrom nodeId granted (rest ++ [taken]) key := by
  rcases h with ⟨hopen, hreceived⟩ | ⟨reported, pin, hprecedes, hkey⟩
  · exact Or.inl ⟨hopen, exists_mem_concat hreceived taken⟩
  · exact Or.inr ⟨reported, pin, hprecedes.concat taken, hkey⟩

/-- The evidence for a session holds in a longer history as well. -/
theorem Evidence.concat (h : Evidence ssl keys nodeId rest session) (taken : Step) :
    Evidence ssl keys nodeId (rest ++ [taken]) session where
  grants hrank := ⟨(h.grants hrank).1, exists_mem_concat (h.grants hrank).2 taken⟩
  publicKey hphase := exists_mem_concat (h.publicKey hphase) taken
  agreed hrank := ⟨(h.agreed hrank).1.concat taken, (h.agreed hrank).2⟩
  echoes hrank := exists_mem_concat (h.echoes hrank) taken

/-- Nothing is asked of a session that has just been opened. -/
theorem Evidence.fresh (nodeId : NodeId) (keyPair : KeyPair) :
    Evidence ssl keys nodeId [] { keyPair } where
  grants hrank := absurd hrank (Nat.not_succ_le_zero _)
  publicKey hphase := by cases hphase
  agreed hrank := absurd hrank (Nat.not_succ_le_zero _)
  echoes hrank := absurd hrank (Nat.not_succ_le_zero _)

/-- A session that moves on within the channel, with its keys and its grant as they are, keeps its
evidence; only the echo may have to be shown. -/
theorem Evidence.moves (h : Evidence ssl keys nodeId rest session) (hrank : 3 ≤ session.phase.rank)
    {after : Session} (hgranted : after.grantedKeys = session.grantedKeys)
    (hsent : after.sentKexSet = session.sentKexSet)
    (hkeyPair : after.keyPair = session.keyPair)
    (hpublicKey : after.nodePublicKey = session.nodePublicKey)
    (htemp : after.tempKeys = session.tempKeys) (hphase : after.phase ≠ .awaitDsk)
    (hechoes : 5 ≤ after.phase.rank →
      ∃ taken ∈ rest, Echoes ssl nodeId session.tempKeys.keyCcm session.sentKexSet taken) :
    Evidence ssl keys nodeId rest after where
  grants _ := by
    rw [hgranted, hsent]
    exact h.grants (Nat.le_trans (by decide) hrank)
  publicKey hdsk := absurd hdsk hphase
  agreed _ := by
    rw [hgranted, hkeyPair, hpublicKey, htemp]
    exact h.agreed hrank
  echoes hafter := by
    rw [hsent, htemp]
    exact hechoes hafter

/-- The step lemma: whatever an event does to a session, its evidence goes along. -/
theorem Evidence.outcome {s : Bootstrap} {event : BootstrapEvent} {after : Session}
    (h : Evidence ssl keys nodeId rest session)
    (houtcome : Outcome ssl keys s nodeId session event (some after) (s.step ssl keys event).2) :
    after.keyPair = session.keyPair ∧
      Evidence ssl keys nodeId (rest ++ [⟨s, event⟩]) after := by
  have hlonger := h.concat ⟨s, event⟩
  generalize houtputs : (s.step ssl keys event).2 = outputs at houtcome
  cases houtcome with
  | stays => exact ⟨rfl, hlonger⟩
  | granted entropy hphase hdecoded =>
    refine ⟨rfl, { grants := fun _ => ⟨rfl, ?_⟩, publicKey := nofun, agreed := ?_, echoes := ?_ }⟩
    · refine exists_mem_close rest ⟨_, _, entropy, rfl, hdecoded, rfl, ?_⟩
      dsimp only
      rw [houtputs]
      exact List.mem_cons_self
    · exact fun hrank => absurd hrank (by simp [Phase.rank])
    · exact fun hrank => absurd hrank (by simp [Phase.rank])
  | parked entropy hphase hdecoded =>
    have hgrants := hlonger.grants (by rw [hphase]; decide)
    refine ⟨rfl, { grants := fun _ => hgrants, publicKey := fun _ => ?_, agreed := ?_, echoes := ?_ }⟩
    · exact exists_mem_close rest ⟨_, entropy, _, rfl, hdecoded, rfl⟩
    · exact fun hrank => absurd hrank (by simp [Phase.rank])
    · exact fun hrank => absurd hrank (by simp [Phase.rank])
  | agreed entropy hphase hopen hdecoded hkeys =>
    -- The key was reported, and the grant needs no DSK.
    have hgrants := hlonger.grants (by rw [hphase]; decide)
    have hreceived : PublicKeyFrom nodeId session.grantedKeys (rest ++ [⟨s, _⟩]) _ :=
      Or.inl ⟨hopen, exists_mem_close rest ⟨_, entropy, _, rfl, hdecoded, rfl⟩⟩
    refine ⟨rfl, { grants := fun _ => hgrants, publicKey := nofun,
                   agreed := fun _ => ⟨hreceived, hkeys⟩, echoes := ?_ }⟩
    exact fun hrank => absurd hrank (by simp [Phase.rank])
  | confirmed hphase hparsed hkeys =>
    -- The key was reported before, and the operator has completed it.
    have hgrants := hlonger.grants (by rw [hphase]; decide)
    have hconfirmed : PublicKeyFrom nodeId session.grantedKeys (rest ++ [⟨s, _⟩]) _ :=
      Or.inr ⟨_, _, Precedes.close (h.publicKey hphase) ⟨_, rfl, hparsed⟩, rfl⟩
    refine ⟨rfl, { grants := fun _ => hgrants, publicKey := nofun,
                   agreed := fun _ => ⟨hconfirmed, hkeys⟩, echoes := ?_ }⟩
    exact fun hrank => absurd hrank (by simp [Phase.rank])
  -- From here on only the phase moves, and what was shown is not shown again.
  | tempNonce ccData entropy hphase =>
    refine ⟨rfl, hlonger.moves (by rw [hphase]; decide) rfl rfl rfl rfl rfl nofun ?_⟩
    intro hrank
    exact absurd hrank (by simp [Phase.rank])
  | echoed entropy hphase hopens hmatches =>
    refine ⟨rfl, hlonger.moves (by rw [hphase]; decide) rfl rfl rfl rfl rfl nofun ?_⟩
    intro _
    exact exists_mem_close rest ⟨_, entropy, _, rfl, hopens, hmatches⟩
  | transferred entropy hphase =>
    refine ⟨rfl, hlonger.moves (by rw [hphase]; decide) rfl rfl rfl rfl rfl nofun ?_⟩
    intro _
    exact hlonger.echoes (by rw [hphase]; decide)
  | classNonce ccData entropy hphase =>
    refine ⟨rfl, hlonger.moves (by rw [hphase]; decide) rfl rfl rfl rfl rfl nofun ?_⟩
    intro _
    exact hlonger.echoes (by rw [hphase]; decide)
  | verified entropy hphase =>
    refine ⟨rfl, hlonger.moves (by rw [hphase]; decide) rfl rfl rfl rfl rfl nofun ?_⟩
    intro _
    exact hlonger.echoes (by rw [hphase]; decide)

/-- Every event keeps the evidence for all sessions, whichever node it is about. -/
theorem Evidenced.step {history : List Step} {s : Bootstrap} (h : Evidenced ssl keys history s)
    (event : BootstrapEvent) :
    Evidenced ssl keys (history ++ [⟨s, event⟩]) (s.step ssl keys event).1 := by
  intro nodeId after hafter
  -- The session is fresh, or it is what it was, or an outcome of what it was.
  rcases step_session ssl keys s event nodeId with
    ⟨hopens, commandClasses, keyPair, hevent, hsession⟩ | ⟨hquiet, hsame | ⟨session, hs, houtcome⟩⟩
  · rw [hsession] at hafter
    obtain rfl := Option.some.inj hafter
    exact ⟨_, [], Since.fresh history hopens, ⟨commandClasses, hevent⟩, .fresh nodeId keyPair⟩
  · rw [hsame] at hafter
    obtain ⟨start, rest, hsince, hstart, hevidence⟩ := h nodeId after hafter
    exact ⟨start, _, hsince.concat hquiet, hstart, hevidence.concat _⟩
  · obtain ⟨start, rest, hsince, ⟨commandClasses, hstart⟩, hevidence⟩ := h nodeId session hs
    rw [hafter] at houtcome
    obtain ⟨hkeyPair, hevidence⟩ := hevidence.outcome houtcome
    refine ⟨start, _, hsince.concat hquiet, ⟨commandClasses, ?_⟩, hevidence⟩
    rw [hkeyPair, hstart]

/-- In every run, every session has its evidence and its channel is under its key. -/
theorem evidenced_run (ssl : OpenSsl) (keys : Option NetworkKeys.KeySet)
    (events : List BootstrapEvent) :
    Evidenced ssl keys (trace (step ssl keys) {} events) (exec (step ssl keys) {} events) ∧
      ∀ nodeId, (exec (step ssl keys) {} events).Keyed nodeId := by
  refine trace_induction (step ssl keys) {}
    (I := fun history s => Evidenced ssl keys history s ∧ ∀ nodeId, s.Keyed nodeId) ?_ ?_ events
  · constructor
    · intro nodeId session hsession
      cases hsession
    · intro nodeId session hsession
      cases hsession
  · intro history s event ⟨hevidenced, hkeyed⟩
    exact ⟨hevidenced.step event, step_keyed ssl keys hkeyed event⟩

/-! ## The output -/

/-- A bit that stands for a class and meets a grant is granted: it is a single bit. -/
theorem and_eq_of_classForKeyBit {bit granted : UInt8} {cls : NetworkKeys.Class}
    (hclass : KeyInstall.classForKeyBit bit = some cls) (hne : bit &&& granted ≠ 0) :
    bit &&& granted = bit := by
  -- Each of the four bits alone, over the 256 masks.
  have hsingle : ∀ single ∈ [1#8, 2#8, 4#8, 0x80#8], ∀ mask : BitVec 8,
      single &&& mask ≠ 0 → single &&& mask = single := by decide +kernel
  have hmem : bit.toBitVec ∈ [1#8, 2#8, 4#8, 0x80#8] := by
    unfold KeyInstall.classForKeyBit at hclass
    split_ifs at hclass <;> subst bit <;> decide
  have hmeets : bit.toBitVec &&& granted.toBitVec ≠ 0 := by
    intro hzero
    exact hne (UInt8.toBitVec_inj.mp hzero)
  exact UInt8.toBitVec_inj.mp (hsingle _ hmem _ hmeets)

/-- A harmless output reports no key. -/
theorem Harmless.not_reportsKey {out : BootstrapOutput} (h : Harmless out)
    (report : KeyInstall.KeyReport) : ¬ ReportsKey nodeId report out := by
  intro hreport
  cases out with
  | sendPlaintext node payload =>
    have hnone := KeyInstall.decodeKeyReport_eq_none h.2
    rw [hreport.2] at hnone
    cases hnone
  | sendEncrypted node inner frame =>
    have hnone := KeyInstall.decodeKeyReport_eq_none h.2
    rw [hreport.2] at hnone
    cases hnone
  | dskPendingConfirmation | s2KeyAgreementComplete => exact hreport
  | setSecurityScheme | nodeSecurityStatus => exact h

/-- A key is reported in one place: to the node whose session it is, for a class of its grant. -/
theorem Outcome.reportsKey {s : Bootstrap} {node : NodeId} {event : BootstrapEvent}
    {after : Option Session} {outputs : List BootstrapOutput} {out : BootstrapOutput}
    {report : KeyInstall.KeyReport} (h : Outcome ssl keys s node session event after outputs)
    (hout : out ∈ outputs) (hreport : ReportsKey nodeId report out) :
    node = nodeId ∧ session.phase = .awaitNetworkKeyGet ∧
      report.grantedKey &&& session.grantedKeys ≠ 0 ∧
      classKeyForBit keys report.grantedKey = some report.key ∧
      Sealed ssl s nodeId (KeyInstall.encodeKeyReport report.grantedKey report.key) out := by
  rcases h.outputs_cases with
    hharmless | ⟨bit, key, out', hphase, hgranted, hkey, rfl, hsent⟩ | ⟨_, _, _, _, _, _, _, _, _, rfl⟩
  · exact absurd hreport ((hharmless out hout).not_reportsKey report)
  · obtain rfl := List.mem_singleton.mp hout
    obtain ⟨context, nonce, extensions, rfl⟩ := id hsent
    obtain ⟨rfl, hdecoded⟩ := hreport
    rw [KeyInstall.decodeKeyReport_encodeKeyReport] at hdecoded
    obtain rfl := Option.some.inj hdecoded
    exact ⟨rfl, hphase, hgranted, hkey, hsent⟩
  · rcases List.mem_cons.mp hout with rfl | hout
    · exact hreport.elim
    · rw [List.mem_singleton.mp hout] at hreport
      exact hreport.elim

/-- A key that is looked up by its bit is that of the bit's class, from loaded keys. -/
theorem class_of_classKey {bit : UInt8} {key : Key} (h : classKeyForBit keys bit = some key) :
    ∃ cls keySet, KeyInstall.classForKeyBit bit = some cls ∧ keys = some keySet ∧
      key = keySet cls := by
  unfold classKeyForBit at h
  cases hclass : KeyInstall.classForKeyBit bit with
  | none => rw [hclass] at h; cases h
  | some cls =>
    cases keys with
    | none => rw [hclass] at h; cases h
    | some keySet =>
      rw [hclass] at h
      exact ⟨cls, keySet, rfl, rfl, (Option.some.inj h).symm⟩

/-- **Key release.** In every run, whatever the events and whatever their order, a network key is
reported to a node only on what its session has shown since it was opened. -/
theorem releasesSafely (ssl : OpenSsl) (keys : Option NetworkKeys.KeySet)
    (events : List BootstrapEvent) : ReleasesSafely ssl keys Opens events := by
  rintro pre event post - nodeId report out hout hreport
  obtain ⟨hevidenced, hkeyed⟩ := evidenced_run ssl keys pre
  rcases step_output ssl keys _ event hout with hharmless | ⟨node, session, hs, houtcome⟩
  · exact absurd hreport (hharmless.not_reportsKey report)
  -- The report belongs to a session that waits for NETWORK_KEY_GET, five phases in.
  obtain ⟨rfl, hphase, hmeets, hkey, context, nonce, extensions, hsealed⟩ :=
    houtcome.reportsKey hout hreport
  obtain ⟨start, rest, hsince, ⟨commandClasses, hstart⟩, hevidence⟩ := hevidenced node session hs
  have hrank : session.phase.rank = 5 := by rw [hphase]; rfl
  obtain ⟨hsent, taken, htaken, kexReport, hgrants⟩ := hevidence.grants (by omega)
  obtain ⟨hpublicKey, hagreed⟩ := hevidence.agreed (by omega)
  obtain ⟨cls, -, hclass, -⟩ := class_of_classKey hkey
  have hcontains := and_eq_of_classForKeyBit hclass hmeets
  -- The channel that the report goes out on is under the temporary key of the session.
  rw [hkeyed node session hs (by omega)] at hsealed
  refine ⟨start, rest, hsince, commandClasses, session.keyPair, hstart, session.grantedKeys,
    session.tempKeys, hkey, ⟨taken, htaken, kexReport, hgrants, ?_⟩, hcontains, ?_, ?_,
    ⟨session.nodePublicKey, hpublicKey, hagreed⟩, context, nonce, extensions, hsealed⟩
  · intro hcsa haccess
    obtain ⟨_, _, _, _, hgranted, _⟩ := hgrants
    have hdenied := Kex.grantKeys_csa hcsa controllerSupportedKeys
    rw [hgranted, UInt8.and_comm, ← haccess] at hdenied
    exact hmeets hdenied
  · rw [← hsent]
    exact hevidence.echoes (by omega)
  · intro hdsk
    rcases hpublicKey with ⟨hopen, -⟩ | ⟨reported, pin, hprecedes, -⟩
    · exact absurd hopen hdsk
    · exact ⟨reported, pin, hprecedes⟩

/-! ## A handshake

Node 7 asks for the Unauthenticated class, with `OpenSsl.standIn` for the cryptography. -/

/-- The key pair that the controller draws for node 7. -/
def sampleKeyPair : KeyPair where
  publicKey := Vector.replicate 32 1
  privateKey := Vector.replicate 32 2

/-- The public key of node 7. -/
def sampleNodeKey : PublicKey := Vector.replicate 32 3

/-- The network keys. -/
def sampleKeys : NetworkKeys.KeySet := fun _ => Vector.replicate 16 9

/-- The entropy input that each end draws. -/
def sampleEntropy : EntropyInput := Vector.replicate 16 4

/-- The KEX_REPORT of node 7: it asks for the Unauthenticated class. -/
def sampleReport : Kex.Report where
  supportedSchemes := Kex.kexScheme1
  supportedCurves := Kex.ecdhCurve25519
  requestedKeys := Kex.keyS2Unauthenticated

/-- Node 7's end of the temporary channel, with the REI that the controller has sent. -/
def samplePeer : Peer where
  config :=
    let tempKeys := KeyDerivation.deriveTempKeys OpenSsl.standIn
      (Vector.zipWith (· + ·) sampleKeyPair.privateKey sampleNodeKey) sampleKeyPair.publicKey
      sampleNodeKey
    { classKey := tempKeys.keyCcm
      personalization := tempKeys.personalization
      ourNodeId := 7 }
  peerRei := some sampleEntropy

/-- Node 7's echo of the KEX_SET, and its end of the channel after it. -/
def sampleEcho : Option Bytes × Peer :=
  samplePeer.encrypt OpenSsl.standIn (Kex.encodeSet (kexSetFor Kex.keyS2Unauthenticated))
    sampleEntropy

/-- A frame of node 7 on the temporary channel, after its echo and `drawn` more frames. -/
def sampleFrame (drawn : ℕ) (inner : Bytes) : Bytes :=
  let span := sampleEcho.2.span.map (Nat.repeat (Span.advance OpenSsl.standIn) drawn)
  ({ sampleEcho.2 with span }.encrypt OpenSsl.standIn inner sampleEntropy).1.getD []

/-- The handshake of node 7 up to the echoes. -/
def sampleHandshake : List BootstrapEvent :=
  [.s2NetworkKeysReady true, .nodeIncluded 7 [securityTwo] sampleKeyPair,
    .applicationCommand 7 (Kex.encodeReport sampleReport) sampleEntropy,
    .applicationCommand 7 (PublicKey.encode false sampleNodeKey PublicKey.obfuscateNone)
      sampleEntropy,
    .applicationCommand 7 (NonceSync.encodeNonceGet 0) sampleEntropy,
    .applicationCommand 7 (sampleEcho.1.getD []) sampleEntropy]

/-- The step is a NodeIncluded of the node, of whatever kind. -/
def Includes (nodeId : NodeId) (taken : Step) : Prop :=
  ∃ commandClasses keyPair, taken.input = .nodeIncluded nodeId commandClasses keyPair

/-- NodeIncluded without S2 leaves the session of an earlier inclusion open, and the key is reported
with nothing behind it since. -/
theorem released_after_reinclusion :
    ¬ ReleasesSafely OpenSsl.standIn (some sampleKeys) Includes
      (sampleHandshake ++ [.nodeIncluded 7 [] sampleKeyPair] ++
        [.applicationCommand 7 (sampleFrame 1 (KeyInstall.encodeKeyGet Kex.keyS2Unauthenticated))
          sampleEntropy]) := by
  intro hsafe
  have hreleased : ∃ out ∈ ((exec (step OpenSsl.standIn (some sampleKeys)) {}
      (sampleHandshake ++ [.nodeIncluded 7 [] sampleKeyPair])).step OpenSsl.standIn
        (some sampleKeys) (.applicationCommand 7
          (sampleFrame 1 (KeyInstall.encodeKeyGet Kex.keyS2Unauthenticated)) sampleEntropy)).2,
      ReportsKey 7 { grantedKey := Kex.keyS2Unauthenticated, key := Vector.replicate 16 9 } out := by
    decide +kernel
  obtain ⟨out, hout, hreport⟩ := hreleased
  obtain ⟨start, rest, hsince, _, _, _, granted, tempKeys, hauthorised⟩ :=
    hsafe _ _ [] rfl 7 _ out hout hreport
  rw [trace_concat] at hsince
  -- The last NodeIncluded of node 7 is the last step, so nothing came since.
  obtain rfl := hsince.rest_eq_nil ⟨[], sampleKeyPair, rfl⟩
  obtain ⟨taken, htaken, -⟩ := hauthorised.grants
  cases htaken

end Zwaved.S2.Bootstrap
