import Zwaved.S2.Encapsulation

/-!
# What authenticates a frame

`decrypt` cuts a MESSAGE_ENCAPSULATION into the associated data and the ciphertext that CCM opens,
and the cut depends on the frame: the extensions in the clear are a chain of objects that carry
their own lengths (`Chain`). A frame with any chains of extensions, in the clear and inside,
decrypts to the inner command (`decrypt_encrypt_chains`), and nothing of a frame is left
unauthenticated (`authenticated_injective`).
-/

namespace Zwaved.S2.Encapsulation

/-! ## Chains of extensions -/

/-- A chain of extension objects. Each begins with its length, which counts the length byte and the
flags byte too, and the flags of all but the last say that more follow. -/
inductive Chain : Bytes → Prop
  | last {length flags : UInt8} {data : Bytes} (hlength : length.toNat = 2 + data.length)
      (hflags : flags &&& extMoreToFollow = 0) : Chain (length :: flags :: data)
  | more {length flags : UInt8} {data rest : Bytes} (hlength : length.toNat = 2 + data.length)
      (hflags : flags &&& extMoreToFollow ≠ 0) (hrest : Chain rest) :
      Chain (length :: flags :: (data ++ rest))

/-- One round of the loop of `extensionsLength`, at an extension object. -/
theorem extensionsLengthFrom_object {length flags : UInt8} {data : Bytes}
    (hlength : length.toNat = 2 + data.length) (before after : Bytes) :
    extensionsLengthFrom (before ++ length :: flags :: (data ++ after)) before.length =
      if flags &&& extMoreToFollow = 0 then some (before.length + length.toNat)
      else extensionsLengthFrom (before ++ length :: flags :: (data ++ after))
        (before.length + length.toNat) := by
  have hbytes := Bytes.byte_append_right before (length :: flags :: (data ++ after))
  have hfirst : Bytes.byte (before ++ length :: flags :: (data ++ after)) before.length = length :=
    hbytes 0
  have hsecond : Bytes.byte (before ++ length :: flags :: (data ++ after)) (before.length + 1) =
      flags := hbytes 1
  have hsize : (before ++ length :: flags :: (data ++ after)).length =
      before.length + length.toNat + after.length := by
    simp only [List.length_append, List.length_cons]
    omega
  rw [extensionsLengthFrom, if_neg (by omega), hfirst, hsecond]
  dsimp only
  rw [dif_neg (by omega)]

/-- The loop of `extensionsLength` finds the end of a chain from any place on. -/
theorem extensionsLengthFrom_chain {chain : Bytes} (h : Chain chain) (before after : Bytes) :
    extensionsLengthFrom (before ++ (chain ++ after)) before.length =
      some (before.length + chain.length) := by
  induction h generalizing before with
  | @last length flags data hlength hflags =>
    have hobject := @extensionsLengthFrom_object length flags data hlength before after
    rw [if_pos hflags, hlength] at hobject
    simp only [List.cons_append, hobject, List.length_cons, Option.some.injEq]
    omega
  | @more length flags data rest hlength hflags _ ih =>
    -- The next object begins where this one ends.
    have hobject := @extensionsLengthFrom_object length flags data hlength before (rest ++ after)
    have hnext := ih (before ++ length :: flags :: data)
    have hend : (before ++ length :: flags :: data).length = before.length + length.toNat := by
      simp only [List.length_append, List.length_cons]
      omega
    rw [hend] at hnext
    simp only [List.append_assoc, List.cons_append] at hnext hobject ⊢
    rw [hobject, if_neg hflags, hnext]
    simp only [List.length_cons, List.length_append, Option.some.injEq]
    omega

/-- A chain of extensions is well formed: it ends where it does, whatever follows it in the
frame. -/
theorem wellFormed_of_chain {chain : Bytes} (h : Chain chain) : WellFormed chain := by
  intro rest
  have hfrom := extensionsLengthFrom_chain h [] rest
  rw [List.nil_append, List.length_nil, Nat.zero_add] at hfrom
  exact hfrom

/-! ## No byte is left out -/

variable {context : Context}

/-- The associated data tells the sender, the receiver and the home. -/
theorem buildAad_injective {context' : Context}
    {sequenceNumber sequenceNumber' props props' : UInt8} {extensions extensions' : Bytes}
    {frameLength frameLength' : ℕ}
    (h : buildAad context sequenceNumber props extensions frameLength =
      buildAad context' sequenceNumber' props' extensions' frameLength') :
    context.senderNodeId = context'.senderNodeId ∧
      context.receiverNodeId = context'.receiverNodeId ∧ context.homeId = context'.homeId ∧
      sequenceNumber = sequenceNumber' ∧ props = props' ∧ extensions = extensions' := by
  unfold buildAad at h
  obtain ⟨hnodes, h⟩ := List.append_inj h rfl
  obtain ⟨hhome, h⟩ := List.append_inj h (by simp)
  obtain ⟨hfields, hextensions⟩ := List.append_inj h rfl
  obtain ⟨hsender, hreceiver⟩ := List.cons.inj hnodes
  simp only [List.cons.injEq, and_true] at hfields hreceiver
  exact ⟨hsender, hreceiver, Vector.toList_inj.mp hhome, hfields.2.2.1, hfields.2.2.2,
    hextensions⟩

/-- Every byte of a frame is authenticated: frames from which `decrypt` takes the same associated
data and the same ciphertext are the same, and the contexts have the same identities. -/
theorem authenticated_injective :
    (∀ context f g passed, authenticated f context = some passed →
      authenticated g context = some passed → f = g) ∧
      ∀ context context' f g aad cipher cipher', authenticated f context = some (aad, cipher) →
        authenticated g context' = some (aad, cipher') →
        context.senderNodeId = context'.senderNodeId ∧
          context.receiverNodeId = context'.receiverNodeId ∧ context.homeId = context'.homeId := by
  constructor
  · rintro context f g ⟨aad, cipher⟩ hf hg
    obtain ⟨sequenceNumber, props, extensions, rfl, -, -, haad⟩ := authenticated_eq_some_iff.mp hf
    obtain ⟨sequenceNumber', props', extensions', rfl, -, -, haad'⟩ :=
      authenticated_eq_some_iff.mp hg
    obtain ⟨-, -, -, rfl, rfl, rfl⟩ := buildAad_injective (haad.symm.trans haad')
    rfl
  · intro context context' f g aad cipher cipher' hf hg
    obtain ⟨_, _, _, -, -, -, haad⟩ := authenticated_eq_some_iff.mp hf
    obtain ⟨_, _, _, -, -, -, haad'⟩ := authenticated_eq_some_iff.mp hg
    obtain ⟨hsender, hreceiver, hhome, -⟩ := buildAad_injective (haad.symm.trans haad')
    exact ⟨hsender, hreceiver, hhome⟩

/-- So another sequence number makes other associated data or another ciphertext. -/
theorem authenticated_injective_sequenceNumber :
    authenticated [0x9F, 0x03, 1, 0, 1, 2, 3, 4, 5, 6, 7, 8, 9]
        { senderNodeId := 1, receiverNodeId := 2, homeId := #v[1, 2, 3, 4], sequenceNumber := 0 } ≠
      authenticated [0x9F, 0x03, 2, 0, 1, 2, 3, 4, 5, 6, 7, 8, 9]
        { senderNodeId := 1, receiverNodeId := 2, homeId := #v[1, 2, 3, 4],
          sequenceNumber := 0 } := by
  intro hsame
  have hfirst : authenticated [0x9F, 0x03, 1, 0, 1, 2, 3, 4, 5, 6, 7, 8, 9]
      { senderNodeId := 1, receiverNodeId := 2, homeId := #v[1, 2, 3, 4], sequenceNumber := 0 } =
      some (buildAad _ 1 0 [] 13, [1, 2, 3, 4, 5, 6, 7, 8, 9]) := rfl
  have hframes := authenticated_injective.1 _ _ _ _ hfirst (hsame ▸ hfirst)
  exact absurd hframes (by decide)

/-! ## The round trip -/

/-- A frame with any chains of extensions, in the clear and inside, decrypts under the context, the
key and the nonce that it was made with to the inner command that went in. -/
theorem decrypt_encrypt_chains {ssl : OpenSsl} (h : ssl.CcmInverse) (inner : Bytes)
    (context : Context) (classKey : Key) (nonce : CcmNonce) {clear inside : Bytes}
    (hclear : clear = [] ∨ Chain clear) (hinside : inside = [] ∨ Chain inside) :
    decrypt ssl (encrypt ssl inner context classKey nonce clear inside) context classKey nonce =
      some inner :=
  decrypt_encrypt_extensions h inner context classKey nonce
    (fun hnil => wellFormed_of_chain (hclear.resolve_left hnil))
    (fun hnil => wellFormed_of_chain (hinside.resolve_left hnil)) context.sequenceNumber

/-- So a frame with a chain of two objects in the clear and one inside, around a command that looks
like a chain itself. -/
theorem decrypt_encrypt_chains_twoAndOne :
    decrypt OpenSsl.standIn (encrypt OpenSsl.standIn [2, 0x80, 2, 0]
        { senderNodeId := 1, receiverNodeId := 2, homeId := #v[1, 2, 3, 4], sequenceNumber := 9 }
        (Vector.replicate 16 3) (Vector.replicate 13 5) [3, 0x81, 7, 2, 0x00] [4, 0x43, 1, 1])
      { senderNodeId := 1, receiverNodeId := 2, homeId := #v[1, 2, 3, 4], sequenceNumber := 9 }
      (Vector.replicate 16 3) (Vector.replicate 13 5) = some [2, 0x80, 2, 0] :=
  decrypt_encrypt_chains OpenSsl.standIn_ccmInverse _ _ _ _
    (Or.inr (@Chain.more _ _ [7] _ rfl (by decide) (@Chain.last _ _ [] rfl (by decide))))
    (Or.inr (@Chain.last _ _ [1, 1] rfl (by decide)))

end Zwaved.S2.Encapsulation
