import Zwaved.S2.KeyRelease
import Zwaved.S2.Transport

/-!
# Which class is recorded

When the final TRANSFER_END arrives the bootstrap records the highest class of the grant. It should
do so only for a node that has shown to hold the key of that class: the key was transferred, and
afterwards a frame under it carried NETWORK_KEY_VERIFY.

The code does not see to it. It takes TRANSFER_END in the phase that follows the echo as well as in
the phase that follows a verified key, and it takes any frame that opens under a new key for the
verification: `recorded_without_key` is a run in which no key was transferred at all. What does hold
is that a key once asked for is transferred and verified before anything else is, so that all is
well in every run in which the node asks for the key of the highest class before it ends the
transfer, and says NETWORK_KEY_VERIFY when that key is verified. `Orderly` is this condition on the
frames of the node, and `recordsVerified` the result.
-/

namespace Zwaved.S2.Bootstrap

open Reactive

variable (ssl : OpenSsl) (keys : Option NetworkKeys.KeySet)

/-- The output records the node's scheme: in the registry, or on the bus. -/
def Records (nodeId : NodeId) (scheme : SecurityScheme) (out : BootstrapOutput) : Prop :=
  out = .setSecurityScheme nodeId scheme ∨ out = .nodeSecurityStatus nodeId scheme

/-- The step transfers the key of a class to the node. -/
def Transfers (nodeId : NodeId) (cls : NetworkKeys.Class) (key : Key) (taken : Step) : Prop :=
  ∃ bit frame, KeyInstall.classForKeyBit bit = some cls ∧
    .sendEncrypted nodeId (KeyInstall.encodeKeyReport bit key) frame ∈
      (taken.before.step ssl keys taken.input).2

/-- A frame of the node opens under the keys that `key` expands to, and says NETWORK_KEY_VERIFY. -/
def Verifies (nodeId : NodeId) (key : Key) (taken : Step) : Prop :=
  ∃ ccData entropy inner, taken.input = .applicationCommand nodeId ccData entropy ∧
    taken.before.openedClass ssl nodeId (KeyDerivation.networkKeyExpand ssl key).keyCcm ccData =
      some inner ∧
    commandByte inner = some KeyInstall.networkKeyVerify

/-- In a run, whenever a class is recorded for a node, its key was transferred and then verified in
the session under way. -/
def RecordsVerified (events : List BootstrapEvent) : Prop :=
  ∀ pre event post, events = pre ++ event :: post → ∀ nodeId scheme,
    ∀ out ∈ ((exec (step ssl keys) {} pre).step ssl keys event).2, Records nodeId scheme out →
      ∃ start rest, Since (Opens nodeId) (trace (step ssl keys) {} pre) start rest ∧
        ∃ cls keySet, classForScheme scheme = some cls ∧ keys = some keySet ∧
          Precedes (Transfers ssl keys nodeId cls (keySet cls))
            (Verifies ssl nodeId (keySet cls)) rest

/-! ## The condition on the node's frames -/

/-- The bit of the class that a scheme names. -/
def schemeBit : SecurityScheme → UInt8
  | .s2AccessControl => Kex.keyS2AccessControl
  | .s2Authenticated => Kex.keyS2Authenticated
  | _ => Kex.keyS2Unauthenticated

/-- The bit of the highest class of a grant. -/
def highestBit (grantedKeys : UInt8) : UInt8 := schemeBit (schemeFor grantedKeys)

/-- In the step, a frame on the temporary channel opens to `inner` while a NETWORK_KEY_GET or the
final TRANSFER_END is awaited. -/
def Exchanges (nodeId : NodeId) (session : Session) (inner : Bytes) (taken : Step) : Prop :=
  ∃ ccData entropy, taken.input = .applicationCommand nodeId ccData entropy ∧
    taken.before.sessions nodeId = some session ∧ session.phase = .awaitNetworkKeyGet ∧
    taken.before.opened ssl nodeId session.tempKeys.keyCcm ccData = some inner

/-- The node asks for the key of the bit, and the key is loaded. -/
def Requests (nodeId : NodeId) (bit : UInt8) (taken : Step) : Prop :=
  ∃ session inner, Exchanges ssl nodeId session inner taken ∧
    KeyInstall.decodeKeyGet inner = some bit ∧ classKeyForBit keys bit ≠ none

/-- What a step asks of the node it is about, given the history before it. -/
structure Orderly (history : List Step) (taken : Step) : Prop where
  /-- The node ends the transfer only after it has asked, in this session, for the key of the
  highest class of its grant. -/
  ends : ∀ nodeId session inner transferEnd, Exchanges ssl nodeId session inner taken →
    KeyInstall.decodeTransferEnd inner = some transferEnd →
    transferEnd.keyRequestComplete = true → ∀ start rest, Since (Opens nodeId) history start rest →
      ∃ earlier ∈ rest, Requests ssl keys nodeId (highestBit session.grantedKeys) earlier
  /-- What the node sends under the new key, when that is the key of the highest class of its grant,
  is NETWORK_KEY_VERIFY. -/
  verifies : ∀ nodeId ccData entropy session inner,
    taken.input = .applicationCommand nodeId ccData entropy →
    taken.before.sessions nodeId = some session → session.phase = .awaitKeyVerify →
    session.installingKeyBit = highestBit session.grantedKeys →
    taken.before.openedClass ssl nodeId session.installingClassKeys.keyCcm ccData = some inner →
      commandByte inner = some KeyInstall.networkKeyVerify

/-! ## A request is answered -/

section Request

variable {ssl} {keys} {nodeId : NodeId} {session : Session} {s : Bootstrap}

/-- A frame of two bytes or more of the S2 class has its second byte as its command. -/
theorem commandByte_of_header {data : Bytes} (hlength : 2 ≤ data.length)
    (hclass : data.byte 0 = NonceSync.commandClass) : commandByte data = some (data.byte 1) := by
  have hheader : ¬ (data.length < 2 ∨ data.byte 0 ≠ NonceSync.commandClass) := by
    rintro (hlt | hne)
    · omega
    · exact hne hclass
  unfold commandByte NonceSync.commandByte
  rw [if_neg hheader]

/-- A frame that opens under a class key is a MESSAGE_ENCAPSULATION. -/
theorem commandByte_of_opened {key : Key} {ccData inner : Bytes}
    (h : s.opened ssl nodeId key ccData = some inner) :
    commandByte ccData = some Encapsulation.messageEncapsulation := by
  obtain ⟨nonce, -, hdecrypt⟩ := Option.bind_eq_some_iff.mp h
  unfold Encapsulation.decrypt at hdecrypt
  split at hdecrypt
  · cases hdecrypt
  · next hheader =>
    simp only [not_or, not_not, Nat.not_lt] at hheader
    obtain ⟨hlength, hclass, hcommand⟩ := hheader
    have hlong : 2 ≤ ccData.length := by
      unfold Encapsulation.headerSize Encapsulation.tagSize at hlength
      omega
    rw [commandByte_of_header hlong hclass, hcommand]

/-- A NETWORK_KEY_GET has its command byte. -/
theorem commandByte_of_decodeKeyGet {inner : Bytes} {bit : UInt8}
    (h : KeyInstall.decodeKeyGet inner = some bit) :
    commandByte inner = some KeyInstall.networkKeyGet := by
  unfold KeyInstall.decodeKeyGet at h
  split at h
  · cases h
  · next hheader =>
    simp only [not_or, not_not, Nat.not_lt] at hheader
    obtain ⟨hlength, hclass, hcommand⟩ := hheader
    rw [commandByte_of_header (by omega) hclass, hcommand]

/-- A request on the temporary channel goes to `onKeyGet`. -/
theorem step_of_request {ccData inner : Bytes} (entropy : EntropyInput) {bit : UInt8}
    (hs : s.sessions nodeId = some session) (hphase : session.phase = .awaitNetworkKeyGet)
    (hopened : s.opened ssl nodeId session.tempKeys.keyCcm ccData = some inner)
    (hget : KeyInstall.decodeKeyGet inner = some bit) :
    s.step ssl keys (.applicationCommand nodeId ccData entropy) =
      (s.decryptInbound ssl nodeId session ccData).2.onKeyGet ssl keys nodeId session bit
        entropy := by
  obtain ⟨hdecrypt, -, -⟩ := decryptInbound_spec ssl s nodeId session ccData
  have hcommand := commandByte_of_opened hopened
  have hinner := commandByte_of_decodeKeyGet hget
  have hend : ¬ commandByte inner = some KeyInstall.transferEnd := by
    rw [hinner]
    decide
  -- The session and the outer command lead to the key exchange ...
  unfold step onApplicationCommand
  dsimp only
  rw [hs, hcommand]
  dsimp only
  unfold onSessionCommand
  rw [hphase]
  dsimp only
  rw [if_pos rfl]
  -- ... and the inner one to the request.
  unfold onTempChannelKeyExchange
  rcases hresult : s.decryptInbound ssl nodeId session ccData with ⟨plain, s'⟩
  rw [hresult, hopened] at hdecrypt
  dsimp only at hdecrypt
  subst hdecrypt
  dsimp only
  rw [if_neg hend, if_pos hinner, hget]

/-- A request on the temporary channel ends the handshake, or the key goes out and its install is
awaited. -/
theorem request_answered {ccData inner : Bytes} (entropy : EntropyInput) {bit : UInt8} {key : Key}
    (hs : s.sessions nodeId = some session) (hphase : session.phase = .awaitNetworkKeyGet)
    (hopened : s.opened ssl nodeId session.tempKeys.keyCcm ccData = some inner)
    (hget : KeyInstall.decodeKeyGet inner = some bit) (hkey : classKeyForBit keys bit = some key) :
    (s.step ssl keys (.applicationCommand nodeId ccData entropy)).1.sessions nodeId = none ∨
      (s.step ssl keys (.applicationCommand nodeId ccData entropy)).1.sessions nodeId =
        some { session with
          installingKeyBit := bit
          installingClassKeys := KeyDerivation.networkKeyExpand ssl key
          phase := .awaitClassNonceGet } ∧
      ∃ frame, .sendEncrypted nodeId (KeyInstall.encodeKeyReport bit key) frame ∈
        (s.step ssl keys (.applicationCommand nodeId ccData entropy)).2 := by
  obtain ⟨hdecrypt, -, hspan⟩ := decryptInbound_spec ssl s nodeId session ccData
  -- The frame has opened, so the channel has a SPAN, on which the answer can be sent.
  have hchannel := hspan (by rw [hdecrypt, hopened]; exact Option.some_ne_none inner)
  rw [step_of_request entropy hs hphase hopened hget]
  generalize (s.decryptInbound ssl nodeId session ccData).2 = s' at hchannel
  unfold onKeyGet
  -- The bit was not granted, and the session is over.
  split
  · exact Or.inl (sessions_eraseSession _ nodeId)
  -- The report goes out on that SPAN, and the session waits for the channel of the key.
  · obtain ⟨out, hout⟩ := sendEncrypted_of_span ssl hchannel
      (KeyInstall.encodeKeyReport bit key) entropy
    obtain ⟨context, nonce, extensions, hsealed⟩ := (sendEncrypted_spec ssl s' nodeId
      (KeyInstall.encodeKeyReport bit key) entropy).2 out (by rw [hout]; exact List.mem_cons_self)
    have hsent : ∃ frame, .sendEncrypted nodeId (KeyInstall.encodeKeyReport bit key) frame ∈
        (s'.sendEncrypted ssl nodeId (KeyInstall.encodeKeyReport bit key) entropy).2 := by
      rw [hout, hsealed]
      exact ⟨_, List.mem_cons_self⟩
    rw [hkey]
    exact Or.inr ⟨sessions_setSession _ nodeId _, hsent⟩

end Request

/-! ## The invariant -/

/-- How far the install of the keys is, as far as the history since the session was opened tells. -/
structure Installs (nodeId : NodeId) (rest : List Step) (session : Session) : Prop where
  /-- Nothing has been asked for before the echo. -/
  early : session.phase.rank < 5 → ∀ taken ∈ rest, ∀ bit, ¬ Requests ssl keys nodeId bit taken
  /-- While an install is awaited, its key has been transferred. -/
  installing : 6 ≤ session.phase.rank → ∃ cls keySet,
    KeyInstall.classForKeyBit session.installingKeyBit = some cls ∧ keys = some keySet ∧
      session.installingClassKeys = KeyDerivation.networkKeyExpand ssl (keySet cls) ∧
      ∃ taken ∈ rest, Transfers ssl keys nodeId cls (keySet cls) taken
  /-- Once the key of the highest class has been asked for, its install is awaited or done. -/
  requested : (∃ taken ∈ rest, Requests ssl keys nodeId (highestBit session.grantedKeys) taken) →
    (6 ≤ session.phase.rank ∧ session.installingKeyBit = highestBit session.grantedKeys) ∨
      ∃ cls keySet, KeyInstall.classForKeyBit (highestBit session.grantedKeys) = some cls ∧
        keys = some keySet ∧ Precedes (Transfers ssl keys nodeId cls (keySet cls))
          (Verifies ssl nodeId (keySet cls)) rest

/-- Every session was opened in the history, and its installs are as the history since tells. -/
def Installing (history : List Step) (s : Bootstrap) : Prop :=
  ∀ nodeId session, s.sessions nodeId = some session → ∃ start rest,
    Since (Opens nodeId) history start rest ∧ Installs ssl keys nodeId rest session

variable {ssl keys} {nodeId : NodeId} {rest : List Step} {session after : Session} {s : Bootstrap}
  {event : BootstrapEvent}

/-- One step asks for one key at most. -/
theorem Requests.unique {bit bit' : UInt8} {taken : Step} (h : Requests ssl keys nodeId bit taken)
    (h' : Requests ssl keys nodeId bit' taken) : bit = bit' := by
  obtain ⟨session, inner, ⟨ccData, entropy, hinput, hs, -, hopened⟩, hget, -⟩ := h
  obtain ⟨session', inner', ⟨ccData', entropy', hinput', hs', -, hopened'⟩, hget', -⟩ := h'
  cases hinput.symm.trans hinput'
  obtain rfl := Option.some.inj (hs.symm.trans hs')
  obtain rfl := Option.some.inj (hopened.symm.trans hopened')
  exact Option.some.inj (hget.symm.trans hget')

/-- With no request before, there is nothing to show of a session whose keys are all installed. -/
theorem Installs.of_early
    (hearly : ∀ taken ∈ rest, ∀ bit, ¬ Requests ssl keys nodeId bit taken)
    (hrank : session.phase.rank < 6) : Installs ssl keys nodeId rest session where
  early _ := hearly
  installing hlater := absurd hrank (Nat.not_lt.mpr hlater)
  requested := by
    rintro ⟨taken, htaken, hrequest⟩
    exact absurd hrequest (hearly taken htaken _)

/-- A step without a request leaves the installs as they are. -/
theorem Installs.concat (h : Installs ssl keys nodeId rest session) {taken : Step}
    (hnone : ∀ bit, ¬ Requests ssl keys nodeId bit taken) :
    Installs ssl keys nodeId (rest ++ [taken]) session where
  early hrank earlier hearlier bit := by
    rcases List.mem_append.mp hearlier with hearlier | hearlier
    · exact h.early hrank earlier hearlier bit
    · rw [List.mem_singleton.mp hearlier]
      exact hnone bit
  installing hrank := by
    obtain ⟨cls, keySet, hclass, hkeys, hexpand, htransfers⟩ := h.installing hrank
    exact ⟨cls, keySet, hclass, hkeys, hexpand, exists_mem_concat htransfers taken⟩
  requested := by
    rintro ⟨earlier, hearlier, hrequest⟩
    rcases List.mem_append.mp hearlier with hearlier | hearlier
    · rcases h.requested ⟨earlier, hearlier, hrequest⟩ with
        hinstalling | ⟨cls, keySet, hclass, hkeys, hprecedes⟩
      · exact Or.inl hinstalling
      · exact Or.inr ⟨cls, keySet, hclass, hkeys, hprecedes.concat taken⟩
    · rw [List.mem_singleton.mp hearlier] at hrequest
      exact absurd hrequest (hnone _)

/-- The invariant of a session holds after a request: the key asked for is being installed then. -/
theorem Installs.request (h : ∀ session, s.sessions nodeId = some session →
      Installs ssl keys nodeId rest session) {bit : UInt8}
    (hrequest : Requests ssl keys nodeId bit ⟨s, event⟩)
    (hafter : (s.step ssl keys event).1.sessions nodeId = some after) :
    Installs ssl keys nodeId (rest ++ [⟨s, event⟩]) after := by
  -- The request opens in the phase that waits for one, for a key that is loaded.
  obtain ⟨session, inner, ⟨ccData, entropy, hinput, hs, hphase, hopened⟩, hget, hloaded⟩ :=
    id hrequest
  obtain ⟨key, hkey⟩ := Option.ne_none_iff_exists'.mp hloaded
  dsimp only at hinput hs hopened
  subst hinput
  rcases request_answered entropy hs hphase hopened hget hkey with
    hnone | ⟨hsession, frame, hframe⟩
  -- A session that has ended has nothing to show.
  · rw [hnone] at hafter
    cases hafter
  rw [hsession] at hafter
  obtain rfl := Option.some.inj hafter
  obtain ⟨cls, keySet, hclass, hkeys, rfl⟩ := class_of_classKey hkey
  -- From here on the channel of the key is waited for, and its report is in the trace.
  refine ⟨fun hrank => absurd hrank (by simp [Phase.rank]), fun _ => ?_, ?_⟩
  · exact ⟨cls, keySet, hclass, hkeys, rfl, exists_mem_close rest ⟨bit, frame, hclass, hframe⟩⟩
  · rintro ⟨earlier, hearlier, hhighest⟩
    rcases List.mem_append.mp hearlier with hearlier | hearlier
    · -- The key of the highest class was asked for before; no install was awaited, so it is done.
      rcases (h session hs).requested ⟨earlier, hearlier, hhighest⟩ with
        ⟨hrank, -⟩ | ⟨cls', keySet', hclass', hkeys', hprecedes⟩
      · rw [hphase] at hrank
        exact absurd hrank (by decide)
      · exact Or.inr ⟨cls', keySet', hclass', hkeys', hprecedes.concat _⟩
    -- The request of the highest class is this one, so that its install is the one awaited.
    · rw [List.mem_singleton.mp hearlier] at hhighest
      exact Or.inl ⟨Nat.le_refl 6, hrequest.unique hhighest⟩

/-- The invariant of a session holds after every outcome that is no request for a key. -/
theorem Installs.outcome {history : List Step} (h : Installs ssl keys nodeId rest session)
    (hs : s.sessions nodeId = some session) (horderly : Orderly ssl keys history ⟨s, event⟩)
    (hnone : ∀ bit, ¬ Requests ssl keys nodeId bit ⟨s, event⟩)
    (houtcome : Outcome ssl keys s nodeId session event (some after) (s.step ssl keys event).2) :
    Installs ssl keys nodeId (rest ++ [⟨s, event⟩]) after := by
  have hlonger := h.concat hnone
  generalize (s.step ssl keys event).2 = outputs at houtcome
  cases houtcome with
  | stays => exact hlonger
  -- Up to the echo nothing can have been asked for.
  | granted _ hphase | parked _ hphase | agreed _ hphase | echoed _ hphase =>
    exact .of_early (hlonger.early (by rw [hphase]; decide)) (by simp [Phase.rank])
  | confirmed hphase =>
    exact .of_early (hlonger.early (by rw [hphase]; decide)) (by simp [Phase.rank])
  | tempNonce _ _ hphase =>
    exact .of_early (hlonger.early (by rw [hphase]; decide)) (by simp [Phase.rank])
  -- A transfer answers a request, and the step has none.
  | transferred entropy hphase hopens hdecoded hgranted hkey =>
    have hrequest : Requests ssl keys nodeId _ ⟨s, _⟩ :=
      ⟨session, _, ⟨_, entropy, rfl, hs, hphase, hopens⟩, hdecoded, by rw [hkey]; simp⟩
    exact absurd hrequest (hnone _)
  | classNonce _ _ hphase =>
    refine ⟨fun hrank => absurd hrank (by simp [Phase.rank]),
      fun _ => hlonger.installing (by rw [hphase]; decide), fun hrequested => ?_⟩
    rcases hlonger.requested hrequested with ⟨-, hbit⟩ | hdone
    · exact Or.inl ⟨by simp [Phase.rank], hbit⟩
    · exact Or.inr hdone
  | verified entropy hphase hopens =>
    refine ⟨fun hrank => absurd hrank (by simp [Phase.rank]),
      fun hrank => absurd hrank (by simp [Phase.rank]), fun hrequested => ?_⟩
    rcases hlonger.requested hrequested with ⟨-, hbit⟩ | hdone
    · -- This is the frame that verifies the key of the highest class.
      obtain ⟨cls, keySet, hclass, hkeys, hexpand, htransfers⟩ :=
        h.installing (by rw [hphase]; decide)
      have hverify := horderly.verifies nodeId _ entropy session _ rfl hs hphase hbit hopens
      rw [hexpand] at hopens
      rw [hbit] at hclass
      exact Or.inr ⟨cls, keySet, hclass, hkeys,
        Precedes.close htransfers ⟨_, entropy, _, rfl, hopens, hverify⟩⟩
    · exact Or.inr hdone

/-- An orderly event keeps the invariant of all sessions, whichever node it is about. -/
theorem Installing.step {history : List Step} (h : Installing ssl keys history s)
    (horderly : Orderly ssl keys history ⟨s, event⟩) :
    Installing ssl keys (history ++ [⟨s, event⟩]) (s.step ssl keys event).1 := by
  intro nodeId after hafter
  rcases step_session ssl keys s event nodeId with
    ⟨hopens, commandClasses, keyPair, -, hsession⟩ | ⟨hquiet, hrest⟩
  · rw [hsession] at hafter
    obtain rfl := Option.some.inj hafter
    exact ⟨_, [], Since.fresh history hopens, .of_early (by simp) (by simp [Phase.rank])⟩
  · obtain ⟨session, hs⟩ : ∃ session, s.sessions nodeId = some session := by
      rcases hrest with hsame | ⟨session, hs, -⟩
      · exact ⟨after, hsame.symm.trans hafter⟩
      · exact ⟨session, hs⟩
    obtain ⟨start, rest, hsince, hinstalls⟩ := h nodeId session hs
    refine ⟨start, _, hsince.concat hquiet, ?_⟩
    -- A request moves the installs on; any other outcome does so as `Installs.outcome` says.
    by_cases hrequest : ∃ bit, Requests ssl keys nodeId bit ⟨s, event⟩
    · obtain ⟨bit, hrequest⟩ := hrequest
      refine Installs.request (fun found hfound => ?_) hrequest hafter
      rwa [Option.some.inj (hfound.symm.trans hs)]
    · have hnone : ∀ bit, ¬ Requests ssl keys nodeId bit ⟨s, event⟩ := not_exists.mp hrequest
      rcases hrest with hsame | ⟨session', hs', houtcome⟩
      · obtain rfl := Option.some.inj (hs.symm.trans (hsame.symm.trans hafter))
        exact hinstalls.concat hnone
      · obtain rfl := Option.some.inj (hs.symm.trans hs')
        rw [hafter] at houtcome
        exact hinstalls.outcome hs horderly hnone houtcome

/-- The class that stands for the highest granted bit is the class of the scheme that is
recorded. -/
theorem classForKeyBit_highestBit (grantedKeys : UInt8) :
    KeyInstall.classForKeyBit (highestBit grantedKeys) = classForScheme (schemeFor grantedKeys) := by
  unfold highestBit schemeFor
  split_ifs <;> rfl

/-- A class is recorded in one place: for the node whose session it is, on the final
TRANSFER_END. -/
theorem Outcome.records {node : NodeId} {afterwards : Option Session}
    {outputs : List BootstrapOutput} {out : BootstrapOutput} {scheme : SecurityScheme}
    (h : Outcome ssl keys s node session event afterwards outputs)
    (hs : s.sessions node = some session)
    (hout : out ∈ outputs) (hrecords : Records nodeId scheme out) :
    node = nodeId ∧ scheme = schemeFor session.grantedKeys ∧ ∃ inner transferEnd,
      Exchanges ssl nodeId session inner ⟨s, event⟩ ∧
      KeyInstall.decodeTransferEnd inner = some transferEnd ∧
      transferEnd.keyRequestComplete = true := by
  -- An output that is recorded is not one of those that say nothing.
  have hloud : ¬ Harmless out := by
    rcases hrecords with rfl | rfl <;> exact id
  rcases h.outputs_cases with hharmless | ⟨bit, key, out', -, -, -, rfl, hsealed⟩ |
    ⟨ccData, entropy, inner, transferEnd, rfl, hphase, hopened, hdecoded, hcomplete, rfl⟩
  · exact absurd (hharmless out hout) hloud
  -- The report of a key records nothing.
  · obtain rfl := List.mem_singleton.mp hout
    obtain ⟨context, nonce, extensions, rfl⟩ := hsealed
    rcases hrecords with hrecords | hrecords <;> cases hrecords
  -- The end of the transfer records the scheme of what was granted, in the two outputs that do.
  · have hnode : node = nodeId ∧ scheme = schemeFor session.grantedKeys := by
      rcases List.mem_cons.mp hout with rfl | hout
      · rcases hrecords with hrecords | hrecords <;> cases hrecords
        exact ⟨rfl, rfl⟩
      · rw [List.mem_singleton.mp hout] at hrecords
        rcases hrecords with hrecords | hrecords <;> cases hrecords
        exact ⟨rfl, rfl⟩
    obtain ⟨rfl, rfl⟩ := hnode
    exact ⟨rfl, rfl, inner, transferEnd, ⟨ccData, entropy, rfl, hs, hphase, hopened⟩, hdecoded,
      hcomplete⟩

/-- Every step of a run is orderly. -/
def OrderlyRun (ssl : OpenSsl) (keys : Option NetworkKeys.KeySet) (events : List BootstrapEvent) :
    Prop :=
  ∀ pre event post, events = pre ++ event :: post →
    Orderly ssl keys (trace (step ssl keys) {} pre) ⟨exec (step ssl keys) {} pre, event⟩

/-- **Recorded classes.** In every run in which the frames of the nodes are orderly, a class is
recorded for a node only after its key was transferred and verified. -/
theorem recordsVerified {events : List BootstrapEvent} (horderly : OrderlyRun ssl keys events) :
    RecordsVerified ssl keys events := by
  rintro pre event post rfl nodeId scheme out hout hrecords
  have hinstalling : Installing ssl keys (trace (step ssl keys) {} pre)
      (exec (step ssl keys) {} pre) := by
    refine trace_induction_of (step ssl keys) {} ?_ (fun history s event h hc => h.step hc) pre ?_
    · intro nodeId session hsession
      cases hsession
    · intro first earlier rest hfirst
      refine horderly first earlier (rest ++ event :: post) ?_
      rw [hfirst, List.append_assoc, List.cons_append]
  have hstep := horderly pre event post rfl
  rcases step_output ssl keys _ event hout with hharmless | ⟨node, session, hs, houtcome⟩
  · rcases hrecords with rfl | rfl <;> exact hharmless.elim
  obtain ⟨rfl, rfl, inner, transferEnd, hexchanges, hdecoded, hcomplete⟩ :=
    houtcome.records hs hout hrecords
  obtain ⟨start, rest, hsince, hinstalls⟩ := hinstalling node session hs
  -- The condition: the key of the highest class has been asked for.
  have hrequested := hstep.ends node session inner transferEnd hexchanges hdecoded hcomplete
    start rest hsince
  obtain ⟨_, _, _, _, hphase, _⟩ := hexchanges
  refine ⟨start, rest, hsince, ?_⟩
  rcases hinstalls.requested hrequested with ⟨hrank, -⟩ | ⟨cls, keySet, hclass, hkeys, hprecedes⟩
  -- No install is awaited in this phase, so the one that was asked for is done.
  · rw [hphase] at hrank
    exact absurd hrank (by decide)
  · rw [classForKeyBit_highestBit] at hclass
    exact ⟨cls, keySet, hclass, hkeys, hprecedes⟩

/-! ## The sample handshake goes on -/

/-- Node 7's end of the channel under the new key. -/
def sampleClassPeer : Peer where
  config :=
    let classKeys := KeyDerivation.networkKeyExpand OpenSsl.standIn (sampleKeys .unauthenticated)
    { classKey := classKeys.keyCcm
      personalization := classKeys.personalization
      ourNodeId := 7 }
  peerRei := some sampleEntropy

/-- Node 7 asks for its key after the echoes, and proves that it has it. -/
def sampleInstall : List BootstrapEvent :=
  [.applicationCommand 7 (sampleFrame 1 (KeyInstall.encodeKeyGet Kex.keyS2Unauthenticated))
      sampleEntropy,
    .applicationCommand 7 (NonceSync.encodeNonceGet 0) sampleEntropy,
    .applicationCommand 7 ((sampleClassPeer.encrypt OpenSsl.standIn KeyInstall.encodeKeyVerify
      sampleEntropy).1.getD []) sampleEntropy]

/-- Node 7 ends the transfer, after `drawn` frames on the temporary channel. -/
def sampleEnd (drawn : ℕ) : BootstrapEvent :=
  .applicationCommand 7 (sampleFrame drawn (KeyInstall.encodeTransferEnd false true)) sampleEntropy

/-- The scheme is recorded right after the echo, and no key was transferred. -/
theorem recorded_without_key :
    ¬ RecordsVerified OpenSsl.standIn (some sampleKeys) (sampleHandshake ++ [sampleEnd 1]) := by
  intro hverified
  have hrecorded : .setSecurityScheme 7 .s2Unauthenticated ∈
      ((exec (step OpenSsl.standIn (some sampleKeys)) {} sampleHandshake).step OpenSsl.standIn
        (some sampleKeys) (sampleEnd 1)).2 := by
    decide +kernel
  have hharmless : ∀ out ∈ emitted (step OpenSsl.standIn (some sampleKeys)) {} sampleHandshake,
      Harmless out := by
    decide +kernel
  obtain ⟨start, rest, hsince, cls, keySet, -, -, hprecedes⟩ :=
    hverified _ _ [] rfl 7 _ _ hrecorded (Or.inl rfl)
  obtain ⟨taken, htaken, bit, frame, -, hframe⟩ := hprecedes.left
  exact (hharmless _ (mem_emitted _ _ (hsince.mem htaken) hframe)).2 rfl

/-- A frame that ends no transfer and verifies with NETWORK_KEY_VERIFY is orderly whatever the
history is. -/
def Plain (ssl : OpenSsl) (s : Bootstrap) : BootstrapEvent → Prop
  | .applicationCommand nodeId ccData _ => ∀ session ∈ s.sessions nodeId,
    (session.phase = .awaitNetworkKeyGet →
      ∀ inner ∈ s.opened ssl nodeId session.tempKeys.keyCcm ccData,
        KeyInstall.decodeTransferEnd inner = none) ∧
    (session.phase = .awaitKeyVerify →
      ∀ inner ∈ s.openedClass ssl nodeId session.installingClassKeys.keyCcm ccData,
        commandByte inner = some KeyInstall.networkKeyVerify)
  | _ => True

instance (ssl : OpenSsl) (s : Bootstrap) : DecidablePred (Plain ssl s)
  | .applicationCommand _ _ _ => inferInstanceAs (Decidable (∀ session ∈ s.sessions _, _))
  | .nodeIncluded _ _ _ | .confirmDsk _ _ | .dongleInfo _ _ | .s2NetworkKeysReady _ =>
    inferInstanceAs (Decidable True)

/-- A plain event is orderly after every history. -/
theorem Plain.orderly {s : Bootstrap} {event : BootstrapEvent} (h : Plain ssl s event)
    (history : List Step) : Orderly ssl keys history ⟨s, event⟩ where
  ends := by
    rintro nodeId session inner _ ⟨ccData, entropy, hinput, hs, hphase, hopened⟩ hdecoded
    dsimp only at hinput
    subst hinput
    rw [(h session hs).1 hphase inner hopened] at hdecoded
    cases hdecoded
  verifies := by
    rintro nodeId ccData entropy session inner hinput hs hphase - hopened
    dsimp only at hinput
    subst hinput
    exact (h session hs).2 hphase inner hopened

/-- A run is orderly when every frame but the last is plain and the last is orderly. -/
theorem OrderlyRun.of_plain {events : List BootstrapEvent} {last : BootstrapEvent}
    (hplain : ∀ taken ∈ trace (step ssl keys) {} events, Plain ssl taken.before taken.input)
    (hlast : Orderly ssl keys (trace (step ssl keys) {} events)
      ⟨exec (step ssl keys) {} events, last⟩) : OrderlyRun ssl keys (events ++ [last]) := by
  intro pre event post hsplit
  rcases List.eq_nil_or_concat post with rfl | ⟨post, x, rfl⟩
  · obtain ⟨rfl, hlasts⟩ := List.append_inj' hsplit rfl
    obtain rfl := List.head_eq_of_cons_eq hlasts
    exact hlast
  · have hevents : events ++ [last] = (pre ++ event :: post) ++ [x] := by simpa using hsplit
    obtain ⟨rfl, -⟩ := List.append_inj' hevents rfl
    have hmem : ⟨exec (step ssl keys) {} pre, event⟩ ∈
        trace (step ssl keys) {} (pre ++ event :: post) :=
      (mem_trace_iff ..).mpr ⟨pre, post, rfl, rfl⟩
    exact (hplain _ hmem).orderly _

/-- What happens in the install of node 7, with one evaluation of the run for all of it: the key is
asked for, every frame is plain, and the end of the transfer is awaited and records the scheme. -/
theorem run_sample :
    (∃ session ∈ (exec (step OpenSsl.standIn (some sampleKeys)) {} sampleHandshake).sessions 7,
      session.phase = .awaitNetworkKeyGet ∧
      ∃ inner ∈ (exec (step OpenSsl.standIn (some sampleKeys)) {} sampleHandshake).opened
          OpenSsl.standIn 7 session.tempKeys.keyCcm
          (sampleFrame 1 (KeyInstall.encodeKeyGet Kex.keyS2Unauthenticated)),
        KeyInstall.decodeKeyGet inner = some Kex.keyS2Unauthenticated) ∧
    (∀ taken ∈ trace (step OpenSsl.standIn (some sampleKeys)) {} (sampleHandshake ++ sampleInstall),
      Plain OpenSsl.standIn taken.before taken.input) ∧
    (∀ session ∈ (exec (step OpenSsl.standIn (some sampleKeys)) {}
        (sampleHandshake ++ sampleInstall)).sessions 7,
      session.phase = .awaitNetworkKeyGet ∧
        highestBit session.grantedKeys = Kex.keyS2Unauthenticated) ∧
    .setSecurityScheme 7 .s2Unauthenticated ∈ emitted (step OpenSsl.standIn (some sampleKeys)) {}
      (sampleHandshake ++ sampleInstall ++ [sampleEnd 4]) := by
  decide +kernel

/-- Node 7 asks for the key of the Unauthenticated class. -/
theorem requests_sample :
    Requests OpenSsl.standIn (some sampleKeys) 7 Kex.keyS2Unauthenticated
      ⟨exec (step OpenSsl.standIn (some sampleKeys)) {} sampleHandshake,
        .applicationCommand 7 (sampleFrame 1 (KeyInstall.encodeKeyGet Kex.keyS2Unauthenticated))
          sampleEntropy⟩ := by
  obtain ⟨session, hs, hphase, inner, hopened, hget⟩ := run_sample.1
  exact ⟨session, inner, ⟨_, _, rfl, hs, hphase, hopened⟩, hget, by decide⟩

/-- The install of node 7 is orderly, and so is the end of the transfer after it. -/
theorem orderlyRun_sample :
    OrderlyRun OpenSsl.standIn (some sampleKeys)
      (sampleHandshake ++ sampleInstall ++ [sampleEnd 4]) := by
  obtain ⟨-, hplain, hsession, -⟩ := run_sample
  refine OrderlyRun.of_plain hplain ⟨?_, ?_⟩
  -- Only the last event ends the transfer, and the highest key has been asked for since the
  -- opening.
  · rintro _ session inner transferEnd ⟨_, _, hinput, hs, -⟩ - - start rest hsince
    cases hinput
    rw [(hsession session hs).2]
    rw [trace_append] at hsince
    refine ⟨_, hsince.mem_rest fun taken htaken => ?_, requests_sample⟩
    obtain ⟨pre, post, hinput, -⟩ := (mem_trace_iff (step OpenSsl.standIn (some sampleKeys))
      (exec (step OpenSsl.standIn (some sampleKeys)) {} sampleHandshake) sampleInstall taken).mp htaken
    have hmem : taken.input ∈ sampleInstall := by
      rw [hinput]
      simp
    obtain ⟨s, event⟩ := taken
    refine not_opens fun commandClasses keyPair hevent => ?_
    simp [sampleInstall, hevent] at hmem
  -- The node sends no nonce request for its class channel in this run.
  · rintro _ _ _ session _ hinput hs hphase
    cases hinput
    rw [(hsession session hs).1] at hphase
    cases hphase

/-- Node 7 is recorded in that run, after its key was transferred and verified. -/
theorem recordsVerified_sample :
    .setSecurityScheme 7 .s2Unauthenticated ∈ emitted (step OpenSsl.standIn (some sampleKeys)) {}
        (sampleHandshake ++ sampleInstall ++ [sampleEnd 4]) ∧
      RecordsVerified OpenSsl.standIn (some sampleKeys)
        (sampleHandshake ++ sampleInstall ++ [sampleEnd 4]) :=
  ⟨run_sample.2.2.2, recordsVerified orderlyRun_sample⟩

end Zwaved.S2.Bootstrap
