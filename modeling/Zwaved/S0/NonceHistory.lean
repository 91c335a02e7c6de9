import Zwaved.CcTranslator.Encapsulation
import Zwaved.Reactive.SingleUse

/-!
# Issued S0 nonces over a whole history

`NonceTable.cpp` keeps one entry for each peer and first byte of a nonce. A new nonce with the same
first byte overwrites the old one, `take` consumes what it finds, fresh or stale, and `purgeExpired`
may run at any time. The table is a machine of single-use slots (`Reactive.SingleUse`), so a nonce
that `take` gives out goes back to the last `generate` for its slot, and to no other `take`.

A purge removes what no later `take` would give out: `live` is the part of the table that is still
fresh at a time, and as time does not go back a purge leaves `live` as it is.

In the second half the table sits where it is used: `NonceResponder.cpp` issues the nonces and the
unwrap layer takes them.
-/

namespace Zwaved.S0

open Reactive

namespace NonceTable

/-! ## The calls -/

section Freshness

variable (limit : Time)

/-- The entry is not older than the freshness `limit`. -/
def isFresh (now : Time) (entry : NonceEntry) : Bool := ¬ now - entry.issued > limit

/-- An entry is fresh until its limit has passed. -/
theorem isFresh_iff {limit now : ℕ} {entry : NonceEntry} :
    isFresh limit now entry = true ↔ now ≤ entry.issued + limit := by
  have h : ∀ issued : ℕ, ¬ now - issued > limit ↔ now ≤ issued + limit := fun _ => by omega
  exact decide_eq_true_iff.trans (h entry.issued)

/-- An entry that is fresh at a later time is fresh now. -/
theorem isFresh_of_le {now later : ℕ} {entry : NonceEntry} (hle : now ≤ later)
    (h : isFresh limit later entry = true) : isFresh limit now entry = true :=
  isFresh_iff.mpr (Nat.le_trans hle (isFresh_iff.mp h))

/-- `take`, of a table that was built with the freshness `limit`. -/
def takeWithin (t : NonceTable) (peer : NodeId) (nonceId : UInt8) (now : Time) :
    Option Nonce × NonceTable :=
  match t.entries peer nonceId with
  | none => (none, t)
  | some entry =>
    (if now - entry.issued > limit then none else some entry.nonce, t.set peer nonceId none)

/-- `purgeExpired`: the entries that are too old are erased. -/
def purgeExpired (t : NonceTable) (now : Time) : NonceTable where
  entries peer nonceId := (t.entries peer nonceId).filter (isFresh limit now)

/-- The calls of the table. -/
inductive Call
  /-- `generate`, with the nonce that it draws. -/
  | generate (peer : NodeId) (now : Time) (nonce : Nonce)
  /-- `take`. -/
  | take (peer : NodeId) (nonceId : UInt8) (now : Time)
  /-- `purgeExpired`. -/
  | purgeExpired (now : Time)
  deriving DecidableEq

/-- When the call is made. -/
def Call.now : Call → Time
  | .generate _ now _ => now
  | .take _ _ now => now
  | .purgeExpired now => now

/-- The call is no purge. -/
def Call.isNoPurge : Call → Bool
  | .purgeExpired _ => false
  | _ => true

/-- One call, with what a `take` returns. -/
def perform (t : NonceTable) : Call → NonceTable × List (Option Nonce)
  | .generate peer now nonce => (t.generate peer now nonce, [])
  | .take peer nonceId now =>
    let (taken, t) := t.takeWithin limit peer nonceId now
    (t, [taken])
  | .purgeExpired now => (t.purgeExpired limit now, [])

/-- The table of the daemon has the default freshness. -/
theorem take_eq_takeWithin (t : NonceTable) (peer : NodeId) (nonceId : UInt8) (now : Time) :
    t.take peer nonceId now = t.takeWithin freshness peer nonceId now := rfl

variable {limit} {t : NonceTable} {peer other : NodeId} {nonceId otherId : UInt8} {now : Time}

/-- Storing an entry changes the one of its peer and id, and no other. -/
theorem set_entries (entry : Option NonceEntry) :
    (t.set peer nonceId entry).entries other otherId =
      if other = peer ∧ otherId = nonceId then entry else t.entries other otherId := by
  unfold set
  by_cases hpeer : other = peer
  · subst hpeer
    by_cases hid : otherId = nonceId
    · simp [hid]
    · simp [hid]
  · simp [hpeer]

/-- A generated nonce takes the entry of its peer and id, and no other. -/
theorem generate_entries (nonce : Nonce) :
    (t.generate peer now nonce).entries other otherId =
      if other = peer ∧ otherId = nonce.id then some { nonce, issued := now }
      else t.entries other otherId :=
  set_entries _

/-- A `take` empties its own slot, fresh or not, and leaves the others. -/
theorem takeWithin_entries :
    (t.takeWithin limit peer nonceId now).2.entries other otherId =
      if other = peer ∧ otherId = nonceId then none else t.entries other otherId := by
  unfold takeWithin
  cases hentry : t.entries peer nonceId with
  | some entry => exact set_entries none
  | none =>
    by_cases hslot : other = peer ∧ otherId = nonceId
    · obtain ⟨rfl, rfl⟩ := hslot
      rw [if_pos ⟨rfl, rfl⟩]
      exact hentry
    · rw [if_neg hslot]

/-- What is still fresh at a time. -/
def live (limit : Time) (t : NonceTable) (peer : NodeId) (nonceId : UInt8) (now : Time) :
    Option NonceEntry :=
  (t.entries peer nonceId).filter (isFresh limit now)

/-- A `take` gives out the nonce of its slot while that is fresh. -/
theorem takeWithin_fst :
    (t.takeWithin limit peer nonceId now).1 = (t.live limit peer nonceId now).map (·.nonce) := by
  unfold takeWithin live
  cases hentry : t.entries peer nonceId with
  | none => rfl
  | some entry =>
    by_cases hstale : now - entry.issued > limit
    · have hfresh : isFresh limit now entry = false := by simp only [isFresh, hstale]; rfl
      rw [Option.filter_some_neg hfresh]
      exact if_pos hstale
    · have hfresh : isFresh limit now entry = true := by simp only [isFresh, hstale]; rfl
      rw [Option.filter_some_pos hfresh]
      exact if_neg hstale

/-- What `take` gives out is an entry of the table that is still fresh. -/
theorem takeWithin_eq_some {nonce : Nonce}
    (h : (t.takeWithin limit peer nonceId now).1 = some nonce) :
    ∃ issued, t.entries peer nonceId = some { nonce, issued } ∧ now ≤ issued + limit := by
  rw [takeWithin_fst] at h
  obtain ⟨⟨nonce', issued⟩, hlive, heq⟩ := Option.map_eq_some_iff.mp h
  dsimp only at heq
  subst heq
  obtain ⟨hentry, hfresh⟩ := Option.filter_eq_some_iff.mp hlive
  exact ⟨issued, hentry, isFresh_iff.mp hfresh⟩

/-! ## The history of a slot -/

/-- The call puts an entry into a slot. -/
def Call.Issues : Call → NodeId × UInt8 → NonceEntry → Prop
  | .generate peer now nonce, slot, entry =>
    slot = (peer, nonce.id) ∧ entry = { nonce, issued := now }
  | _, _, _ => False

/-- The call takes from a slot. -/
def Call.Takes (call : Taken NonceTable Call) (slot : NodeId × UInt8) : Prop :=
  ∃ now, call.input = .take slot.1 slot.2 now

/-- The slots of the nonce table are single-use: only `generate` issues into one, and only `take`
uses it. -/
theorem singleUse : SingleUse (perform limit) (fun t slot => t.entries slot.1 slot.2) Call.Issues
    Call.Takes where
  origin {t call slot entry} h := by
    obtain ⟨other, otherId⟩ := slot
    cases call with
    -- A nonce that is issued fills its own slot and no other.
    | generate peer now nonce =>
      have hentry := h
      simp only [perform, generate_entries] at hentry
      split at hentry
      next hslot =>
        obtain ⟨rfl, rfl⟩ := hslot
        exact Or.inl ⟨rfl, (Option.some.inj hentry).symm⟩
      next hslot =>
        refine Or.inr ⟨hentry, ?_, ?_⟩
        · rintro w ⟨heq, -⟩
          exact hslot ⟨(Prod.mk.inj heq).1, (Prod.mk.inj heq).2⟩
        · rintro ⟨later, htake⟩
          cases htake
    -- What is taken is gone; another slot has what it had.
    | take peer nonceId now =>
      have hentry := h
      simp only [perform, takeWithin_entries] at hentry
      split at hentry
      · cases hentry
      next hslot =>
        refine Or.inr ⟨hentry, fun _ => id, ?_⟩
        rintro ⟨later, htake⟩
        obtain ⟨rfl, rfl, -⟩ := Call.take.inj htake
        exact hslot ⟨rfl, rfl⟩
    -- A purge takes away, and fills nothing.
    | purgeExpired now =>
      refine Or.inr ⟨(Option.filter_eq_some_iff.mp h).1, fun _ => id, ?_⟩
      rintro ⟨later, htake⟩
      cases htake
  slot_unique {call k l v w} h h' := by
    cases call with
    | generate peer now nonce => exact h.1.trans h'.1.symm
    | take peer nonceId now => exact h.elim
    | purgeExpired now => exact h.elim

/-- The call at place `j` is a `take` that gives out `nonce`. -/
structure Grants (limit : Time) (calls : List Call) (j : ℕ) (peer : NodeId) (nonceId : UInt8)
    (now : Time) (nonce : Nonce) : Prop where
  /-- The call is a `take`. -/
  call : calls[j]? = some (.take peer nonceId now)
  /-- It succeeds. -/
  taken : ((exec (perform limit) {} (calls.take j)).takeWithin limit peer nonceId now).1 =
    some nonce

/-- The `take` at place `j` gives out what the `generate` at place `i` has issued. -/
structure Matches (limit : Time) (calls : List Call) (i : ℕ) (issued : Time) (j : ℕ)
    (peer : NodeId) (nonceId : UInt8) (now : Time) (nonce : Nonce) : Prop where
  /-- The `take` succeeds. -/
  grants : Grants limit calls j peer nonceId now nonce
  /-- The `generate` comes before it. -/
  lt : i < j
  /-- It is a `generate` for the peer, which drew this nonce. -/
  call : calls[i]? = some (.generate peer issued nonce)
  /-- The nonce is named by its first byte. -/
  first : nonce[0] = nonceId
  /-- Time does not go back. -/
  le : issued ≤ now
  /-- The nonce is fresh. -/
  fresh : now - issued ≤ limit
  /-- It is the latest `generate` for the slot. -/
  latest : ∀ m t other, i < m → m < j → calls[m]? = some (.generate peer t other) →
    other[0] ≠ nonceId

variable {calls : List Call} {i j j' : ℕ} {issued : Time} {nonce : Nonce}

/-- A `take` that succeeds spends an issue that is still fresh. -/
theorem Grants.spends (h : Grants limit calls j peer nonceId now nonce) :
    ∃ issued, now ≤ issued + limit ∧ ∃ i, Spends Call.Issues Call.Takes
      (trace (perform limit) {} calls) i j (peer, nonceId) { nonce, issued } := by
  obtain ⟨issued, hentry, hfresh⟩ := takeWithin_eq_some h.taken
  exact ⟨issued, hfresh, singleUse.exists_spends (fun _ => rfl) h.call hentry ⟨now, rfl⟩⟩

/-- The issue that a `take` spends is a `generate` of that nonce for that peer. -/
theorem generate_of_spends
    (h : Spends Call.Issues Call.Takes (trace (perform limit) {} calls) i j (peer, nonceId)
      { nonce, issued }) :
    calls[i]? = some (.generate peer issued nonce) ∧ nonce.id = nonceId := by
  obtain ⟨t, ht, hissues⟩ := h.issued
  rw [trace_getElem?] at ht
  obtain ⟨call, hcall, rfl⟩ := Option.map_eq_some_iff.mp ht
  cases call with
  | generate p at' n =>
    obtain ⟨hslot, hentry⟩ := hissues
    obtain ⟨rfl, rfl⟩ := Prod.mk.inj hslot
    obtain ⟨rfl, rfl⟩ := NonceEntry.mk.inj hentry
    exact ⟨hcall, rfl⟩
  | take p n at' => exact hissues.elim
  | purgeExpired at' => exact hissues.elim

/-- With monotone times, every `take` that succeeds matches a `generate`. -/
theorem Grants.exists_matches (hmono : calls.Pairwise fun c d => c.now ≤ d.now)
    (h : Grants limit calls j peer nonceId now nonce) :
    ∃ i issued, Matches limit calls i issued j peer nonceId now nonce := by
  obtain ⟨issued, hfresh, i, hspends⟩ := h.spends
  obtain ⟨hcall, hfirst⟩ := generate_of_spends hspends
  have hle : issued ≤ now := by
    obtain ⟨hi, hci⟩ := List.getElem?_eq_some_iff.mp hcall
    obtain ⟨hj, hcj⟩ := List.getElem?_eq_some_iff.mp h.call
    have hpair := List.pairwise_iff_getElem.mp hmono i j hi hj hspends.lt
    rwa [hci, hcj] at hpair
  refine ⟨i, issued, h, hspends.lt, hcall, hfirst, hle, Nat.sub_le_iff_le_add'.mpr hfresh,
    fun m t other hm hmj hother => ?_⟩
  rintro rfl
  refine hspends.untouched m ⟨exec (perform limit) {} (calls.take m), .generate peer t other⟩ hm hmj
    ?_ (Or.inl ⟨{ nonce := other, issued := t }, rfl, rfl⟩)
  rw [trace_getElem?, hother, Option.map_some]

/-- A `take` that matches a `generate` spends an issue of the nonce. -/
theorem Matches.spends (h : Matches limit calls i issued j peer nonceId now nonce) :
    ∃ issued', Spends Call.Issues Call.Takes (trace (perform limit) {} calls) i j (peer, nonceId)
      { nonce, issued := issued' } := by
  obtain ⟨issued', -, i', hspends⟩ := h.grants.spends
  -- The latest `generate` for the slot before `j` is the one at `i`, so `i'` is `i`.
  obtain ⟨hcall', hfirst⟩ := generate_of_spends hspends
  rcases Nat.lt_trichotomy i i' with hlt | rfl | hlt
  · exact absurd hfirst (h.latest i' issued' nonce hlt hspends.lt hcall')
  · exact ⟨issued', hspends⟩
  · have hplace : (trace (perform limit) {} calls)[i]? =
        some ⟨exec (perform limit) {} (calls.take i), .generate peer issued nonce⟩ := by
      rw [trace_getElem?, h.call, Option.map_some]
    have hslot : (peer, nonceId) = (peer, nonce.id) := congrArg (Prod.mk peer) h.first.symm
    exact absurd (Or.inl ⟨{ nonce, issued }, hslot, rfl⟩)
      (hspends.untouched i _ hlt h.lt hplace)

/-! ## Purges -/

/-- Two tables have the same fresh entries from a time on. -/
def SameLive (limit : Time) (since : Time) (t t' : NonceTable) : Prop :=
  ∀ peer nonceId now, since ≤ now → t.live limit peer nonceId now = t'.live limit peer nonceId now

/-- A purge leaves what is live at its own time and later. -/
theorem live_purgeExpired {at' : Time} (h : at' ≤ now) :
    (t.purgeExpired limit at').live limit peer nonceId now = t.live limit peer nonceId now := by
  unfold live purgeExpired
  dsimp only
  rw [Option.filter_filter]
  congr 1
  funext entry
  cases hfresh : isFresh limit now entry with
  | false => exact Bool.and_false _
  | true => rw [isFresh_of_le limit h hfresh, Bool.and_self]

/-- A generated nonce is live until its limit has passed, and every other is live as before. -/
theorem live_generate {at' : Time} :
    (t.generate peer at' nonce).live limit other otherId now =
      if other = peer ∧ otherId = nonce.id then
        (some { nonce, issued := at' }).filter (isFresh limit now)
      else t.live limit other otherId now := by
  unfold live
  rw [generate_entries]
  split <;> rfl

/-- A nonce that is taken is gone, fresh or not, and no other is. -/
theorem live_takeWithin {at' : Time} :
    (t.takeWithin limit peer nonceId at').2.live limit other otherId now =
      if other = peer ∧ otherId = nonceId then none else t.live limit other otherId now := by
  unfold live
  rw [takeWithin_entries]
  split <;> rfl

variable {since : Time} {t' : NonceTable}

/-- A call other than a purge keeps the fresh entries equal, and returns the same. -/
theorem SameLive.perform (h : SameLive limit since t t') {call : Call} (hnow : since ≤ call.now)
    (hpurge : call.isNoPurge = true) :
    SameLive limit call.now (t.perform limit call).1 (t'.perform limit call).1 ∧
      (t.perform limit call).2 = (t'.perform limit call).2 := by
  cases call with
  | generate peer at' nonce =>
    refine ⟨fun other otherId now hle => ?_, rfl⟩
    have hlive := h other otherId now (Nat.le_trans hnow hle)
    simp only [NonceTable.perform, live_generate, hlive]
  | take peer nonceId at' =>
    refine ⟨fun other otherId now hle => ?_, ?_⟩
    · have hlive := h other otherId now (Nat.le_trans hnow hle)
      simp only [NonceTable.perform, live_takeWithin, hlive]
    · have hlive := h peer nonceId at' hnow
      simp only [NonceTable.perform, takeWithin_fst, hlive]
  | purgeExpired at' => cases hpurge

/-- A purge of one of the two tables keeps the fresh entries equal. -/
theorem SameLive.purgeExpired (h : SameLive limit since t t') {at' : Time} (hnow : since ≤ at') :
    SameLive limit at' (t.purgeExpired limit at') t' := by
  intro other otherId now hle
  rw [live_purgeExpired hle]
  exact h other otherId now (Nat.le_trans hnow hle)

/-- With monotone times, the purges of a run do not change what it returns. -/
theorem emitted_filter (h : SameLive limit since t t')
    (hsince : ∀ call ∈ calls, since ≤ call.now)
    (hmono : calls.Pairwise fun c d => c.now ≤ d.now) :
    emitted (NonceTable.perform limit) t calls =
      emitted (NonceTable.perform limit) t' (calls.filter Call.isNoPurge) := by
  induction calls generalizing t t' since with
  | nil => rfl
  | cons call calls ih =>
    obtain ⟨hlater, hrest⟩ := List.pairwise_cons.mp hmono
    have hnow : since ≤ call.now := hsince call List.mem_cons_self
    by_cases hpurge : call.isNoPurge = true
    · obtain ⟨hlive, hout⟩ := h.perform hnow hpurge
      rw [List.filter_cons_of_pos hpurge, emitted, emitted, hout, ih hlive hlater hrest]
    · rw [List.filter_cons_of_neg hpurge]
      cases call with
      | generate peer at' nonce => exact absurd rfl hpurge
      | take peer nonceId at' => exact absurd rfl hpurge
      | purgeExpired at' => exact ih (h.purgeExpired hnow) hlater hrest

end Freshness

end NonceTable

/-! ## Where the nonces are used -/

namespace NonceResponder

/-- `onApplicationCommand`: a NONCE_GET is answered with a new nonce. -/
def onApplicationCommand (nonces : NonceTable) (nodeId : NodeId) (data : Bytes) (now : Time)
    (nonce : Nonce) : NonceTable × Option Bytes :=
  if Security.commandByte data = some Security.nonceGet then
    (nonces.generate nodeId now nonce, some (Security.encodeNonceReport nonce))
  else (nonces, none)

end NonceResponder

/-- The unwrap layer and the nonce responder, which share `issuedNonces()`. -/
structure Inbound where
  /-- The unwrap layer. -/
  unwrap : CcTranslator.Unwrap := {}
  /-- `issuedNonces()`. -/
  nonces : NonceTable := {}
  /-- `NetworkKey::current()`. -/
  networkKey : Option Key := none

namespace Inbound

/-- What happens to them. A command that the unwrap layer republishes comes back as an event. -/
inductive Event
  /-- ApplicationCommand, with the nonce that the responder draws for it. -/
  | applicationCommand (nodeId : NodeId) (data : Bytes) (now : Time) (nonce : Nonce)
  /-- DongleInfo. -/
  | dongleInfo (controllerNodeId : NodeId)
  /-- The network key is set or forgotten. -/
  | networkKey (key : Option Key)
  /-- `purgeExpired`. -/
  | purgeExpired (now : Time)

/-- What they publish. -/
inductive Output
  /-- SendDataCommand, with a NONCE_REPORT. -/
  | sendData (nodeId : NodeId) (payload : Bytes)
  /-- ApplicationCommand, with where it comes from. -/
  | applicationCommand (nodeId : NodeId) (origin : CcTranslator.Origin) (ccData : Bytes)

variable (ssl : OpenSsl)

/-- One event. -/
def step (s : Inbound) : Event → Inbound × List Output
  | .applicationCommand nodeId data now nonce =>
    let ((unwrap, nonces), inner) :=
      s.unwrap.onApplicationCommand ssl s.networkKey s.nonces nodeId data now
    let (nonces, report) := NonceResponder.onApplicationCommand nonces nodeId data now nonce
    ({ s with unwrap, nonces },
      (inner.map fun (origin, ccData) => Output.applicationCommand nodeId origin ccData).toList ++
        (report.map (Output.sendData nodeId)).toList)
  | .dongleInfo controllerNodeId =>
    ({ s with unwrap := { s.unwrap with controllerNodeId := controllerNodeId } }, [])
  | .networkKey key => ({ s with networkKey := key }, [])
  | .purgeExpired now => ({ s with nonces := s.nonces.purgeExpired NonceTable.freshness now }, [])

/-- A NONCE_GET puts an entry into a slot. -/
def Issues : Event → NodeId × UInt8 → NonceEntry → Prop
  | .applicationCommand nodeId data now nonce, slot, entry =>
    Security.commandByte data = some Security.nonceGet ∧ slot = (nodeId, nonce.id) ∧
      entry = { nonce, issued := now }
  | _, _, _ => False

/-- The event at place `j` is an S0 frame that is opened with `nonce`. -/
structure Opens (events : List Event) (j : ℕ) (nodeId : NodeId) (frame : Bytes) (now : Time)
    (nonce : Nonce) (inner : Bytes) : Prop where
  /-- The event is an ApplicationCommand. -/
  event : ∃ drawn, events[j]? = some (.applicationCommand nodeId frame now drawn)
  /-- The inner command is published. -/
  published : ((exec (step ssl) {} (events.take j)).unwrap.onApplicationCommand ssl
      (exec (step ssl) {} (events.take j)).networkKey (exec (step ssl) {} (events.take j)).nonces
      nodeId frame now).2 = some (.s0 frame nonce, inner)

/-- The S0 frame at place `j` is authenticated with the nonce that was issued at place `i`. -/
structure Authenticates (events : List Event) (i j : ℕ) (nodeId : NodeId) (nonce : Nonce) :
    Prop where
  /-- The frame is opened with the nonce. -/
  opens : ∃ frame now inner, Opens ssl events j nodeId frame now nonce inner
  /-- The nonce was issued before. -/
  lt : i < j
  /-- It was issued to the node, which had asked for it. -/
  issued : ∃ get now, events[i]? = some (.applicationCommand nodeId get now nonce) ∧
    Security.commandByte get = some Security.nonceGet
  /-- The node was given no other nonce with this first byte in between. -/
  latest : ∀ m get now other, i < m → m < j →
    events[m]? = some (.applicationCommand nodeId get now other) →
    Security.commandByte get = some Security.nonceGet → other[0] ≠ nonce[0]

end Inbound

end Zwaved.S0

namespace Zwaved.CcTranslator.Unwrap

variable {ssl : S0.OpenSsl} {networkKey : Option S0.Key} {u : Unwrap} {nonces : S0.NonceTable}
  {nodeId : NodeId} {data frame inner : Bytes} {now : S0.Time} {nonce : S0.Nonce}

/-- A frame is opened with the nonce that `take` gives out. -/
theorem openS0_taken (h : (u.openS0 ssl networkKey nonces nodeId data now).2 =
      some (.s0 frame nonce, inner)) :
    nonces.take nodeId (data.byte (data.length - 9)) now =
      (some nonce, (u.openS0 ssl networkKey nonces nodeId data now).1) := by
  unfold openS0 at h ⊢
  split at h
  · cases h
  next hlen =>
  rw [if_neg hlen]
  cases networkKey with
  | none => cases h
  | some key =>
    rcases htake : nonces.take nodeId (data.byte (data.length - 9)) now with ⟨_ | taken, nonces'⟩
    · rw [htake] at h
      cases h
    · rw [htake] at h
      obtain ⟨plain, -, heq⟩ := Option.map_eq_some_iff.mp h
      cases heq
      rfl

/-- The same of the whole handler: after an S0 frame has been opened its nonce is gone. -/
theorem onApplicationCommand_taken
    (h : (u.onApplicationCommand ssl networkKey nonces nodeId data now).2 =
      some (.s0 frame nonce, inner)) :
    nonces.take nodeId (data.byte (data.length - 9)) now =
      (some nonce, (u.onApplicationCommand ssl networkKey nonces nodeId data now).1.2) := by
  unfold onApplicationCommand at h ⊢
  -- The branches are those of the source; only the one that decrypts names a nonce.
  split at h
  · cases h
  next hlen =>
  rw [if_neg hlen]
  split at h
  · obtain ⟨plain, -, heq⟩ := Option.map_eq_some_iff.mp h
    cases heq
  next hcrc =>
  rw [if_neg hcrc]
  split at h
  · unfold feedSegment at h
    cases hfeed : (u.assemblers nodeId).feedSegment data with
    | error fault => rw [hfeed] at h; cases h
    | ok result =>
      rw [hfeed] at h
      obtain ⟨plain, -, heq⟩ := Option.map_eq_some_iff.mp h
      cases heq
  next htransport =>
  rw [if_neg htransport]
  split at h
  -- The nonce is taken off the table before the frame is opened, whatever comes of it.
  · next hs0 =>
    rw [if_pos hs0]
    exact openS0_taken h
  · cases h

end Zwaved.CcTranslator.Unwrap

namespace Zwaved.S0

open Reactive

namespace Inbound

variable {ssl : OpenSsl}

/-- An S0 frame is opened with the nonce of a slot. -/
def Uses (ssl : OpenSsl) (t : Taken Inbound Event) (slot : NodeId × UInt8) : Prop :=
  ∃ frame now drawn nonce inner, t.input = .applicationCommand slot.1 frame now drawn ∧
    slot.2 = frame.byte (frame.length - 9) ∧
    (t.before.unwrap.onApplicationCommand ssl t.before.networkKey t.before.nonces slot.1 frame
      now).2 = some (.s0 frame nonce, inner)

/-- What is left of a slot by an ApplicationCommand, before the responder sees it. -/
theorem entries_unwrap {s : Inbound} {nodeId other : NodeId} {data : Bytes} {now : Time}
    {drawn : Nonce} {nonceId : UInt8} {entry : NonceEntry}
    (h : (s.unwrap.onApplicationCommand ssl s.networkKey s.nonces nodeId data
      now).1.2.entries other nonceId = some entry) :
    s.nonces.entries other nonceId = some entry ∧
      ¬ Uses ssl ⟨s, .applicationCommand nodeId data now drawn⟩ (other, nonceId) := by
  refine ⟨CcTranslator.Unwrap.entries_onApplicationCommand h, ?_⟩
  rintro ⟨frame, time, drawn', nonce, inner, hinput, hid, hopen⟩
  obtain ⟨rfl, rfl, rfl, rfl⟩ := Event.applicationCommand.inj hinput
  dsimp only at hid hopen
  have htaken := CcTranslator.Unwrap.onApplicationCommand_taken hopen
  rw [NonceTable.take_eq_takeWithin] at htaken
  have hentries : (s.nonces.takeWithin NonceTable.freshness nodeId (data.byte (data.length - 9))
      now).2.entries nodeId nonceId = _ := NonceTable.takeWithin_entries
  rw [htaken, if_pos ⟨rfl, hid⟩, h] at hentries
  cases hentries

/-- The slots of the unwrap layer are single-use as well: an answered NONCE_GET issues into one, and
a frame that is opened uses it. -/
theorem singleUse : SingleUse (step ssl) (fun s slot => s.nonces.entries slot.1 slot.2) Issues
    (Uses ssl) where
  origin {s event slot entry} h := by
    obtain ⟨other, otherId⟩ := slot
    cases event with
    -- The frame is unwrapped first, and then a request is answered with a new nonce.
    | applicationCommand nodeId data now nonce =>
      have hentry := h
      simp only [step, NonceResponder.onApplicationCommand] at hentry
      split at hentry
      next hget =>
        dsimp only at hentry
        rw [NonceTable.generate_entries] at hentry
        -- The slot that is filled anew has the nonce of this request.
        split at hentry
        next hslot =>
          obtain ⟨rfl, rfl⟩ := hslot
          exact Or.inl ⟨hget, rfl, (Option.some.inj hentry).symm⟩
        next hslot =>
          obtain ⟨hbefore, hunused⟩ := entries_unwrap hentry
          refine Or.inr ⟨hbefore, ?_, hunused⟩
          rintro w ⟨-, heq, -⟩
          exact hslot ⟨(Prod.mk.inj heq).1, (Prod.mk.inj heq).2⟩
      -- Without a request nothing is issued, and the unwrapping took what is gone.
      next hget =>
        obtain ⟨hbefore, hunused⟩ := entries_unwrap hentry
        exact Or.inr ⟨hbefore, fun w hw => hget hw.1, hunused⟩
    -- The other events take nothing and issue nothing.
    | dongleInfo controllerNodeId =>
      refine Or.inr ⟨h, fun _ => id, ?_⟩
      rintro ⟨_, _, _, _, _, hinput, -⟩
      cases hinput
    | networkKey key =>
      refine Or.inr ⟨h, fun _ => id, ?_⟩
      rintro ⟨_, _, _, _, _, hinput, -⟩
      cases hinput
    | purgeExpired now =>
      refine Or.inr ⟨(Option.filter_eq_some_iff.mp h).1, fun _ => id, ?_⟩
      rintro ⟨_, _, _, _, _, hinput, -⟩
      cases hinput
  slot_unique {event k l v w} h h' := by
    cases event with
    | applicationCommand nodeId data now nonce => exact h.2.1.trans h'.2.1.symm
    | dongleInfo controllerNodeId => exact h.elim
    | networkKey key => exact h.elim
    | purgeExpired now => exact h.elim

variable {events : List Event} {i j j' : ℕ} {nodeId : NodeId} {nonce : Nonce}

/-- The issue that a frame spends is a NONCE_GET of its node that was answered with that nonce. -/
theorem get_of_spends {nonceId : UInt8} {entry : NonceEntry}
    (h : Spends Issues (Uses ssl) (trace (step ssl) {} events) i j (nodeId, nonceId) entry) :
    ∃ get, events[i]? = some (.applicationCommand nodeId get entry.issued entry.nonce) ∧
      Security.commandByte get = some Security.nonceGet ∧ entry.nonce.id = nonceId := by
  obtain ⟨t, ht, hissues⟩ := h.issued
  rw [trace_getElem?] at ht
  obtain ⟨event, hevent, rfl⟩ := Option.map_eq_some_iff.mp ht
  cases event with
  | applicationCommand p get at' n =>
    obtain ⟨hget, hslot, rfl⟩ := hissues
    obtain ⟨rfl, rfl⟩ := Prod.mk.inj hslot
    exact ⟨get, hevent, hget, rfl⟩
  | dongleInfo controllerNodeId => exact hissues.elim
  | networkKey key => exact hissues.elim
  | purgeExpired now => exact hissues.elim

/-- A frame that is opened spends an issue of the nonce for its node. -/
theorem Opens.spends {frame inner : Bytes} {now : Time}
    (h : Opens ssl events j nodeId frame now nonce inner) :
    ∃ issued i, Spends Issues (Uses ssl) (trace (step ssl) {} events) i j (nodeId, nonce.id)
      { nonce, issued } := by
  obtain ⟨⟨drawn, hevent⟩, hopen⟩ := h
  have htaken := CcTranslator.Unwrap.onApplicationCommand_taken hopen
  rw [NonceTable.take_eq_takeWithin] at htaken
  obtain ⟨issued, hentry, -⟩ := NonceTable.takeWithin_eq_some (congrArg Prod.fst htaken)
  obtain ⟨i, hspends⟩ := singleUse.exists_spends (fun _ => rfl) (v := { nonce, issued })
    (k := (nodeId, frame.byte (frame.length - 9))) hevent hentry
    ⟨frame, now, drawn, nonce, inner, rfl, rfl, hopen⟩
  obtain ⟨get, -, -, hfirst⟩ := get_of_spends hspends
  dsimp only at hfirst
  rw [← hfirst] at hspends
  exact ⟨issued, i, hspends⟩

variable (ssl) in
/-- Whoever asked for a nonce in between would have touched its slot. -/
theorem touches_get {get : Bytes} {now : Time} {m : ℕ}
    (hevent : events[m]? = some (.applicationCommand nodeId get now nonce))
    (hget : Security.commandByte get = some Security.nonceGet) :
    ∃ t, (trace (step ssl) {} events)[m]? = some t ∧
      Touches Issues (Uses ssl) (nodeId, nonce.id) t := by
  refine ⟨⟨exec (step ssl) {} (events.take m), .applicationCommand nodeId get now nonce⟩, ?_,
    Or.inl ⟨{ nonce, issued := now }, hget, rfl, rfl⟩⟩
  rw [trace_getElem?, hevent, Option.map_some]

/-- Every S0 frame that is opened is authenticated with a nonce that was issued. -/
theorem Opens.exists_authenticates {frame inner : Bytes} {now : Time}
    (h : Opens ssl events j nodeId frame now nonce inner) :
    ∃ i, Authenticates ssl events i j nodeId nonce := by
  obtain ⟨issued, i, hspends⟩ := h.spends
  obtain ⟨get, hevent, hget, -⟩ := get_of_spends hspends
  refine ⟨i, ⟨frame, now, inner, h⟩, hspends.lt, ⟨get, issued, hevent, hget⟩, ?_⟩
  intro m get' now' other hm hmj hevent' hget' hsame
  obtain ⟨t, ht, htouches⟩ := touches_get ssl hevent' hget'
  have hid : other.id = nonce.id := hsame
  rw [hid] at htouches
  exact hspends.untouched m t hm hmj ht htouches

/-- A frame that authenticates spends an issue of the nonce for its node. -/
theorem Authenticates.spends (h : Authenticates ssl events i j nodeId nonce) :
    ∃ issued, Spends Issues (Uses ssl) (trace (step ssl) {} events) i j (nodeId, nonce.id)
      { nonce, issued } := by
  obtain ⟨frame, now, inner, hopens⟩ := h.opens
  obtain ⟨issued, i', hspends⟩ := hopens.spends
  obtain ⟨get', hevent', hget', -⟩ := get_of_spends hspends
  rcases Nat.lt_trichotomy i i' with hlt | rfl | hlt
  · exact absurd rfl (h.latest i' get' issued nonce hlt hspends.lt hevent' hget')
  · exact ⟨issued, hspends⟩
  · obtain ⟨get, time, hevent, hget⟩ := h.issued
    obtain ⟨t, ht, htouches⟩ := touches_get ssl hevent hget
    exact absurd htouches (hspends.untouched i t hlt h.lt ht)

end Inbound

/-- Issued nonces are single-use and fresh: a nonce that `take` gives out is the one that the latest
`generate` for its slot has issued, within the freshness, and no two of them go back to the same
`generate`. Purges do not show. And so each nonce that the responder issues authenticates at most
one S0 frame of the unwrap layer. -/
theorem issued_nonces_single_use (ssl : OpenSsl) (limit : Time) (calls : List NonceTable.Call)
    (events : List Inbound.Event) (hmono : calls.Pairwise fun c d => c.now ≤ d.now) :
    (∀ j peer nonceId now nonce, NonceTable.Grants limit calls j peer nonceId now nonce →
      ∃ i issued, NonceTable.Matches limit calls i issued j peer nonceId now nonce) ∧
    (∀ i issued j peer nonceId now nonce issued' j' peer' nonceId' now' nonce',
      NonceTable.Matches limit calls i issued j peer nonceId now nonce →
      NonceTable.Matches limit calls i issued' j' peer' nonceId' now' nonce' → j = j') ∧
    (∀ purged : List NonceTable.Call, (purged.Pairwise fun c d => c.now ≤ d.now) →
      purged.filter NonceTable.Call.isNoPurge = calls.filter NonceTable.Call.isNoPurge →
      emitted (NonceTable.perform limit) {} purged = emitted (NonceTable.perform limit) {} calls) ∧
    (∀ j nodeId frame now nonce inner, Inbound.Opens ssl events j nodeId frame now nonce inner →
      ∃ i, Inbound.Authenticates ssl events i j nodeId nonce) ∧
    (∀ i j nodeId nonce j' nodeId' nonce', Inbound.Authenticates ssl events i j nodeId nonce →
      Inbound.Authenticates ssl events i j' nodeId' nonce' → j = j') := by
  refine ⟨fun j peer nonceId now nonce h => h.exists_matches hmono, ?_, ?_, ?_, ?_⟩
  -- The first nonce that a slot is given is spent once, and so is each later one.
  · intro i issued j peer nonceId now nonce issued' j' peer' nonceId' now' nonce' h h'
    obtain ⟨_, hspends⟩ := h.spends
    obtain ⟨_, hspends'⟩ := h'.spends
    exact (@NonceTable.singleUse limit).spends_unique hspends hspends'
  -- A purge removes only what has expired, which no call that comes later would take.
  · intro purged hpurged hsame
    have hlive : NonceTable.SameLive limit 0 {} {} := fun _ _ _ _ => rfl
    rw [NonceTable.emitted_filter hlive (fun _ _ => Nat.zero_le _) hpurged, hsame,
      NonceTable.emitted_filter hlive (fun _ _ => Nat.zero_le _) hmono]
  · intro j nodeId frame now nonce inner h
    exact h.exists_authenticates
  -- The same of the whole layer, where what is taken has opened a frame.
  · intro i j nodeId nonce j' nodeId' nonce' h h'
    obtain ⟨_, hspends⟩ := h.spends
    obtain ⟨_, hspends'⟩ := h'.spends
    exact (@Inbound.singleUse ssl).spends_unique hspends hspends'

/-- Two nonces of node 5 that begin with the same byte, and a `take` after a purge. -/
def NonceTable.sampleCalls : List NonceTable.Call :=
  [.generate 5 0 (Vector.replicate 8 6), .generate 5 3 ⟨#[6, 1, 2, 3, 4, 5, 6, 7], rfl⟩,
    .purgeExpired 12, .take 5 6 13]

/-- A frame that is accepted after a purge and another take, with the nonce issued for it. -/
theorem issued_nonces_single_use_sample :
    ∃ i issued, NonceTable.Matches 10 NonceTable.sampleCalls i issued 3 5 6 13
      ⟨#[6, 1, 2, 3, 4, 5, 6, 7], rfl⟩ :=
  (issued_nonces_single_use OpenSsl.standIn 10 NonceTable.sampleCalls [] (by decide)).1 _ _ _ _ _
    ⟨rfl, by decide⟩

end Zwaved.S0
