import Zwaved.Reactive.Run
import Zwaved.S2.Mpan

/-!
# Multicast sessions

`MulticastSession.cpp`, the sender's side of a multicast group: each frame is encrypted under the
next nonce of the group's MPAN, and the state moves on by two. A member that has lost the MPAN gets
the inner state in an MPAN extension and builds a generator from it. The sender and the member then
go through the same states (`deciphers_of_same_state`), which is all that their nonces depend on.
-/

namespace Zwaved.S2.Multicast

open MPAN Reactive

/-- `ADVANCE_PER_ROUND`. -/
def advancePerRound : ℕ := 2

/-- `Session::Config`. -/
structure Config where
  /-- `groupId`. -/
  groupId : UInt8
  /-- `senderNodeId`. -/
  senderNodeId : NodeId
  /-- `homeId`. -/
  homeId : HomeId
  /-- `classKeyCcm`: the key of the class that the members share. -/
  classKeyCcm : Key

/-- `Multicast::Session`. -/
structure Session where
  /-- `config_`. -/
  config : Config
  /-- `generator_`. -/
  generator : Generator

/-- What the associated data of a multicast frame binds: the group takes the receiver's place. -/
def Config.context (config : Config) (sequenceNumber : UInt8) : Encapsulation.Context where
  senderNodeId := config.senderNodeId
  receiverNodeId := config.groupId
  homeId := config.homeId
  sequenceNumber := sequenceNumber

namespace Session

/-- `followUpExtension`. -/
def followUpExtension (s : Session) : Bytes := encodeMgrpExtension s.config.groupId

/-- `mpanExtension`. -/
def mpanExtension (s : Session) : Bytes :=
  encodeMpanExtension s.config.groupId s.generator.state

variable (ssl : OpenSsl)

/-- `multicastFrame`. -/
def multicastFrame (s : Session) (inner : Bytes) (sequenceNumber : UInt8) : Bytes × Session :=
  let (nonce, generator) := s.generator.nextNonce ssl s.config.classKeyCcm
  let frame := Encapsulation.encrypt ssl inner (s.config.context sequenceNumber)
    s.config.classKeyCcm nonce s.followUpExtension []
  -- `nextNonce` has advanced by one already.
  (frame, { s with generator := Generator.advance^[advancePerRound - 1] generator })

/-- `multicastFrame` as a step of a machine: an inner command and a sequence number go in, and a
frame comes out. -/
def send (s : Session) (input : Bytes × UInt8) : Session × List Bytes :=
  let (frame, s) := s.multicastFrame ssl input.1 input.2
  (s, [frame])

end Session

/-- A member, for every frame it receives: the nonce to decrypt it with, and one more advance. -/
def receive (ssl : OpenSsl) (keyMpan : Key) (g : Generator) (_frame : Bytes) :
    Generator × List CcmNonce :=
  let (nonce, g) := g.nextNonce ssl keyMpan
  (g.advance, [nonce])

variable {ssl : OpenSsl}

/-- The sender advances twice with each frame, once in `nextNonce`. -/
theorem send_generator (s : Session) (input : Bytes × UInt8) :
    (s.send ssl input).1.generator = s.generator.advance.advance := by
  have hrounds : advancePerRound - 1 = 1 := rfl
  show Generator.advance^[advancePerRound - 1] s.generator.advance = _
  rw [hrounds, Function.iterate_one]

/-- Sending a frame moves the state on by two: one for the nonce and one for the next frame. -/
theorem toNat_send (s : Session) (input : Bytes × UInt8) :
    toNat (s.send ssl input).1.generator.state = (toNat s.generator.state + 2) % 2 ^ 128 := by
  rw [send_generator, Generator.advance, Generator.advance, toNat_incrementCounter,
    toNat_incrementCounter, Nat.mod_add_mod]

/-- Sending `k` frames moves the state on by `2 * k`, modulo its 128 bits. -/
theorem toNat_exec_send (s : Session) (sent : List (Bytes × UInt8)) :
    toNat (exec (Session.send ssl) s sent).generator.state =
      (toNat s.generator.state + 2 * sent.length) % 2 ^ 128 := by
  induction sent generalizing s with
  | nil => exact (Nat.mod_eq_of_lt (toNat_lt _)).symm
  | cons input sent ih =>
    rw [exec_cons, ih, toNat_send, Nat.mod_add_mod, List.length_cons]
    congr 1
    omega

/-- Sending leaves the configuration of the session. -/
theorem send_config (s : Session) (input : Bytes × UInt8) :
    (s.send ssl input).1.config = s.config := by
  unfold Session.send Session.multicastFrame
  dsimp only

/-- Sending any number of frames leaves the configuration of the session. -/
theorem exec_send_config (s : Session) (sent : List (Bytes × UInt8)) :
    (exec (Session.send ssl) s sent).config = s.config := by
  induction sent generalizing s with
  | nil => rfl
  | cons input sent ih => rw [exec_cons, ih, send_config]

/-- A frame of the session decrypts with the nonce that it was encrypted with. -/
theorem decrypt_multicastFrame (h : ssl.CcmInverse) (s : Session) (inner : Bytes)
    (sequenceNumber : UInt8) :
    Encapsulation.decrypt ssl (s.multicastFrame ssl inner sequenceNumber).1
      (s.config.context sequenceNumber) s.config.classKeyCcm
      (s.generator.nextNonce ssl s.config.classKeyCcm).1 = some inner :=
  Encapsulation.decrypt_encrypt h inner (s.config.context sequenceNumber) s.config.classKeyCcm _
    (fun _ => wellFormed_encodeMgrpExtension s.config.groupId) sequenceNumber

/-- What is said of a frame and of the nonce that a member derives for it: it is the nonce that the
frame was encrypted with, and it decrypts the frame. -/
structure Deciphers (ssl : OpenSsl) (config : Config) (inner : Bytes) (sequenceNumber : UInt8)
    (frame : Bytes) (nonce : CcmNonce) : Prop where
  /-- The sender has used the nonce. -/
  encrypted : frame = Encapsulation.encrypt ssl inner (config.context sequenceNumber)
    config.classKeyCcm nonce (encodeMgrpExtension config.groupId) []
  /-- The member decrypts the frame with it. -/
  decrypts : Encapsulation.decrypt ssl frame (config.context sequenceNumber) config.classKeyCcm
    nonce = some inner

/-- The frames that are sent are the first one's, and those that the session sends after it. -/
theorem emitted_send_cons (s : Session) (input : Bytes × UInt8) (next : List (Bytes × UInt8)) :
    emitted (Session.send ssl) s (input :: next) =
      (s.multicastFrame ssl input.1 input.2).1 ::
        emitted (Session.send ssl) (s.send ssl input).1 next := rfl

/-- The nonces that a member derives are the first frame's, and those that it derives with the state
advanced twice. -/
theorem emitted_receive_cons (keyMpan : Key) (g : Generator) (frame : Bytes) (frames : List Bytes) :
    emitted (receive ssl keyMpan) g (frame :: frames) =
      (g.nextNonce ssl keyMpan).1 ::
        emitted (receive ssl keyMpan) g.advance.advance frames := by
  have hnext : (g.nextNonce ssl keyMpan).2 = g.advance := rfl
  rw [← hnext]
  rfl

/-- A member whose state is the session's derives, frame by frame, the nonces that decrypt what the
session sends. -/
theorem deciphers_of_same_state (h : ssl.CcmInverse) (s : Session) (next : List (Bytes × UInt8))
    {j : ℕ} {inner : Bytes} {sequenceNumber : UInt8} (hj : next[j]? = some (inner, sequenceNumber)) :
    ∃ frame nonce, (emitted (Session.send ssl) s next)[j]? = some frame ∧
      (emitted (receive ssl s.config.classKeyCcm) s.generator
        (emitted (Session.send ssl) s next))[j]? = some nonce ∧
      Deciphers ssl s.config inner sequenceNumber frame nonce := by
  induction next generalizing s j with
  | nil => cases hj
  | cons input next ih =>
    rw [emitted_send_cons, emitted_receive_cons]
    cases j with
    | zero =>
      obtain rfl := Option.some.inj hj
      refine ⟨(s.multicastFrame ssl inner sequenceNumber).1,
        (s.generator.nextNonce ssl s.config.classKeyCcm).1, List.getElem?_cons_zero,
        List.getElem?_cons_zero, ?_, ?_⟩
      · rfl
      · exact decrypt_multicastFrame h s inner sequenceNumber
    | succ j =>
      -- Both sides have gone on by two.
      simp only [List.getElem?_cons_succ]
      have hdeciphers := ih (s.send ssl input).1 hj
      rwa [send_config, send_generator] at hdeciphers

/-- A resynchronised member stays in step: after any frames the session's state is the initial one
plus two for each, the MPAN extension that is pushed at that point is read back, the generator built
from it derives for each of the next frames the nonce that decrypts it, and the states that nonces
are drawn from do not repeat within the first `2 ^ 127` frames. -/
theorem resynchronised_member_in_step (h : ssl.CcmInverse) (config : Config) (initial : Block)
    (sent next : List (Bytes × UInt8)) :
    toNat (exec (Session.send ssl) ⟨config, ⟨initial⟩⟩ sent).generator.state =
        (toNat initial + 2 * sent.length) % 2 ^ 128 ∧
      (∃ state, findMpanExtension
          (exec (Session.send ssl) ⟨config, ⟨initial⟩⟩ sent).mpanExtension =
            some (config.groupId, state) ∧
        ∀ (j : ℕ) inner sequenceNumber, next[j]? = some (inner, sequenceNumber) → ∃ frame nonce,
          (emitted (Session.send ssl) (exec (Session.send ssl) ⟨config, ⟨initial⟩⟩ sent)
            next)[j]? = some frame ∧
          (emitted (receive ssl config.classKeyCcm) ⟨state⟩ (emitted (Session.send ssl)
            (exec (Session.send ssl) ⟨config, ⟨initial⟩⟩ sent) next))[j]? = some nonce ∧
          Deciphers ssl config inner sequenceNumber frame nonce) ∧
      ∀ i j : ℕ, i < j → j < 2 ^ 127 → j ≤ sent.length →
        (exec (Session.send ssl) ⟨config, ⟨initial⟩⟩ (sent.take i)).generator.state ≠
          (exec (Session.send ssl) ⟨config, ⟨initial⟩⟩ (sent.take j)).generator.state := by
  obtain ⟨start, hstart⟩ : ∃ start : Session, start = ⟨config, ⟨initial⟩⟩ := ⟨_, rfl⟩
  obtain ⟨session, hsession⟩ : ∃ session, session = exec (Session.send ssl) start sent := ⟨_, rfl⟩
  -- Sending moves the generator on by two steps a frame, and changes nothing else.
  have hconfig : session.config = config := by
    rw [hsession, exec_send_config, hstart]
  have hcount : ∀ frames, toNat (exec (Session.send ssl) start frames).generator.state =
      (toNat initial + 2 * frames.length) % 2 ^ 128 := by
    intro frames
    rw [toNat_exec_send, hstart]
  have hsent := hcount sent
  rw [← hsession] at hsent
  rw [← hstart, ← hsession]
  refine ⟨hsent, ⟨session.generator.state, ?_, ?_⟩, ?_⟩
  -- The member takes the state from the extension as it was written.
  · have hfound := findMpanExtension_encodeMpanExtension session.config.groupId
      session.generator.state []
    rw [List.append_nil, hconfig] at hfound
    rwa [Session.mpanExtension, hconfig]
  -- From the same state on the member derives the nonce of each frame.
  · intro j inner sequenceNumber hj
    have hdeciphers := deciphers_of_same_state h session next hj
    rwa [hconfig] at hdeciphers
  -- The steps between the two are fewer than there are states, so these differ.
  · intro i j hij hj hlength hsame
    have hi := hcount (sent.take i)
    have hj' := hcount (sent.take j)
    rw [List.length_take, Nat.min_eq_left (by omega)] at hi hj'
    rw [hsame, hj'] at hi
    omega

/-- The session of group 3 after one frame. -/
def groupThree : Session :=
  exec (Session.send OpenSsl.standIn)
    ⟨⟨3, 1, #v[1, 2, 3, 4], Vector.replicate 16 7⟩, ⟨Vector.replicate 16 0xFF⟩⟩ [([0x20, 0x01], 5)]

/-- A member of group 3 that is resynchronised after that frame reads the next. -/
theorem resynchronised_member_in_step_standIn :
    toNat groupThree.generator.state = 1 ∧
      ∃ state frame nonce, findMpanExtension groupThree.mpanExtension = some (3, state) ∧
        (emitted (Session.send OpenSsl.standIn) groupThree [([0x25, 0x02], 6)])[0]? = some frame ∧
        (emitted (receive OpenSsl.standIn (Vector.replicate 16 7)) ⟨state⟩
          (emitted (Session.send OpenSsl.standIn) groupThree [([0x25, 0x02], 6)]))[0]? =
            some nonce ∧
        Deciphers OpenSsl.standIn ⟨3, 1, #v[1, 2, 3, 4], Vector.replicate 16 7⟩ [0x25, 0x02] 6
          frame nonce := by
  obtain ⟨hcount, ⟨state, hfound, hreads⟩, -⟩ := resynchronised_member_in_step
    OpenSsl.standIn_ccmInverse ⟨3, 1, #v[1, 2, 3, 4], Vector.replicate 16 7⟩
    (Vector.replicate 16 0xFF) [([0x20, 0x01], 5)] [([0x25, 0x02], 6)]
  obtain ⟨frame, nonce, hframe, hnonce, hdeciphers⟩ := hreads 0 [0x25, 0x02] 6 rfl
  exact ⟨hcount.trans (by decide), state, frame, nonce, hfound, hframe, hnonce, hdeciphers⟩

end Zwaved.S2.Multicast
