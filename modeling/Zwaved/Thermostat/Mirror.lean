import Mathlib.Data.List.Chain
import Zwaved.Codec.Decimal
import Zwaved.KeyedList
import Zwaved.Reactive.Run
import Zwaved.Thermostat.Orchestrator

/-!
# A logical thermostat mirrors its members

What a group's state should be is a matter of the history alone: `aggregate` takes the last report
of each kind from each member, and the last setpoint report from any of them. The orchestrator
keeps the last reports by node, and orders the setpoints by a counter (`Tracks`), and it suppresses
a state whose signature is that of the last one (`Quiet`); the signature tells all fields
(`signature_injective`), so that nothing but repetitions is suppressed.
-/

namespace Zwaved.Thermostat

open Codec Reactive
open Storage (NodeInfo)

/-! ## The signature -/

/-- There is no colon in the text of a number. -/
theorem colon_notMem_toString (n : ℕ) : ':' ∉ (toString n).toList := fun h =>
  absurd (isDigit_of_mem_toString h) (by decide)

/-- A text is told from what follows it by a separator that does not occur in it. -/
theorem append_separator_injective {c : Char} {text text' rest rest' : List Char} (h : c ∉ text)
    (h' : c ∉ text') (heq : text ++ c :: rest = text' ++ c :: rest') :
    text = text' ∧ rest = rest' := by
  induction text generalizing text' with
  | nil =>
    cases text' with
    | nil => exact ⟨rfl, (List.cons.inj heq).2⟩
    | cons d text' => exact absurd ((List.cons.inj heq).1 ▸ List.mem_cons_self) h'
  | cons d text ih =>
    cases text' with
    | nil => exact absurd ((List.cons.inj heq).1.symm ▸ List.mem_cons_self) h
    | cons d' text' =>
      obtain ⟨rfl, hrest⟩ := List.cons.inj heq
      obtain ⟨rfl, rfl⟩ := ih (fun hmem => h (List.mem_cons_of_mem _ hmem))
        (fun hmem => h' (List.mem_cons_of_mem _ hmem)) hrest
      exact ⟨rfl, rfl⟩

/-- A field that is followed by a colon is told from what comes after it. -/
theorem field_injective {m n : UInt8} {rest rest' : List Char}
    (h : (toString m.toNat).toList ++ ':' :: rest = (toString n.toNat).toList ++ ':' :: rest') :
    m = n ∧ rest = rest' := by
  obtain ⟨hfield, hrest⟩ := append_separator_injective (colon_notMem_toString m.toNat)
    (colon_notMem_toString n.toNat) h
  exact ⟨UInt8.toNat_inj.mp (toString_nat_injective hfield), hrest⟩

/-- The signature tells all the fields of a group's state. -/
theorem signature_injective {st st' : LogicalState} (hgroup : st.group = st'.group)
    (h : st.signature = st'.signature) : st = st' := by
  have hcolon : ":".toList = [':'] := rfl
  have hchars := congrArg String.toList h
  simp only [LogicalState.signature, String.toList_append, List.append_assoc, hcolon,
    List.singleton_append] at hchars
  obtain ⟨hmemberCount, hchars⟩ := field_injective hchars
  obtain ⟨hmode, hchars⟩ := field_injective hchars
  obtain ⟨hoperatingState, hchars⟩ := field_injective hchars
  obtain ⟨hfanMode, hchars⟩ := field_injective hchars
  obtain ⟨htype, hchars⟩ := field_injective hchars
  obtain ⟨hscale, hchars⟩ := field_injective hchars
  obtain ⟨hprecision, hchars⟩ := field_injective hchars
  have hvalue := Int32.toInt_inj.mp (toString_int_injective hchars)
  obtain ⟨hkey, hgroupValue⟩ := Prod.mk.inj hgroup
  cases st
  cases st'
  simp_all only

/-- A signature is not the empty text. -/
theorem signature_ne_empty (st : LogicalState) : st.signature ≠ "" := by
  intro h
  have hchars := congrArg String.toList h
  simp only [LogicalState.signature, String.toList_append] at hchars
  simp at hchars

/-! ## What the history says -/

/-- The mode that a node reports. -/
def Event.mode? : Event → Option (NodeId × UInt8)
  | .modeReport sourceNodeId mode => some (sourceNodeId, mode)
  | _ => none

/-- The operating state that a node reports. -/
def Event.operatingState? : Event → Option (NodeId × UInt8)
  | .operatingStateReport sourceNodeId state => some (sourceNodeId, state)
  | _ => none

/-- The fan mode that a node reports. -/
def Event.fanMode? : Event → Option (NodeId × UInt8)
  | .fanModeReport sourceNodeId mode => some (sourceNodeId, mode)
  | _ => none

/-- The setpoint that a node reports. -/
def Event.setpoint? : Event → Option (NodeId × Setpoint)
  | .setpointReport sourceNodeId setpoint => some (sourceNodeId, setpoint)
  | _ => none

/-- The last report of a kind from a node. -/
def latest {α : Type} (report? : Event → Option (NodeId × α)) (events : List Event)
    (nodeId : NodeId) : Option α :=
  (KeyedList.last Prod.fst nodeId (events.filterMap report?)).map Prod.snd

/-- The common value, or MIXED, or 0 if there is none. -/
def agreed : List UInt8 → UInt8
  | [] => 0
  | value :: values => if values.all (· == value) then value else modeMixed

/-- Heating over cooling over idle. -/
def mostActive (states : List UInt8) : UInt8 :=
  if opStateHeating ∈ states then opStateHeating
  else if opStateCooling ∈ states then opStateCooling
  else opStateIdle

/-- The last setpoint that a member has reported. -/
def lastSetpoint (events : List Event) (members : List NodeId) : Setpoint :=
  (((events.filterMap Event.setpoint?).filter fun report => report.1 ∈ members).getLast?.map
    Prod.snd).getD {}

/-- The state of a group, by what its members have reported. -/
def aggregate (events : List Event) (group : GroupKey) (members : List NodeId) : LogicalState where
  groupKey := group.1
  groupValue := group.2
  memberCount := members.length.toUInt8
  mode := agreed (members.filterMap (latest Event.mode? events))
  operatingState := mostActive (members.filterMap (latest Event.operatingState? events))
  fanMode := agreed (members.filterMap (latest Event.fanMode? events))
  setpointType := (lastSetpoint events members).type
  setpointScale := (lastSetpoint events members).scale
  setpointPrecision := (lastSetpoint events members).precision
  setpointValue := (lastSetpoint events members).value

section History

variable {α : Type} {report? : Event → Option (NodeId × α)} {events : List Event} {event : Event}

/-- An event that is no report of the kind adds none. -/
theorem filterMap_concat_none (h : report? event = none) :
    (events ++ [event]).filterMap report? = events.filterMap report? := by
  rw [List.filterMap_append]
  simp [h]

/-- An event that is a report of the kind adds it at the end. -/
theorem filterMap_concat_some {report : NodeId × α} (h : report? event = some report) :
    (events ++ [event]).filterMap report? = events.filterMap report? ++ [report] := by
  rw [List.filterMap_append]
  simp [h]

/-- An event that is no report of the kind leaves every node's last report. -/
theorem latest_concat_none (h : report? event = none) (nodeId : NodeId) :
    latest report? (events ++ [event]) nodeId = latest report? events nodeId := by
  rw [latest, filterMap_concat_none h, latest]

/-- A report becomes its node's last one and leaves those of the other nodes. -/
theorem latest_concat_some {sourceNodeId : NodeId} {value : α}
    (h : report? event = some (sourceNodeId, value)) (nodeId : NodeId) :
    latest report? (events ++ [event]) nodeId =
      if nodeId = sourceNodeId then some value else latest report? events nodeId := by
  rw [latest, filterMap_concat_some h]
  by_cases hnode : nodeId = sourceNodeId
  · subst hnode
    rw [if_pos rfl, KeyedList.last_concat_self (events.filterMap report?) (nodeId, value)]
    rfl
  · rw [if_neg hnode, KeyedList.last_concat_of_ne _ (Ne.symm hnode), latest]

end History

/-! ## The order of the members -/

/-- Values that all equal one agree on it. -/
theorem agreed_of_forall {values : List UInt8} {value : UInt8} (hne : values ≠ [])
    (h : ∀ v ∈ values, v = value) : agreed values = value := by
  cases values with
  | nil => exact absurd rfl hne
  | cons first values =>
    obtain rfl := h first List.mem_cons_self
    have hall : values.all (· == first) = true := by
      rw [List.all_eq_true]
      exact fun v hv => beq_iff_eq.mpr (h v (List.mem_cons_of_mem _ hv))
    rw [agreed, if_pos hall]

/-- Values with two different ones among them are mixed. -/
theorem agreed_of_ne {values : List UInt8} {v w : UInt8} (hv : v ∈ values) (hw : w ∈ values)
    (hne : v ≠ w) : agreed values = modeMixed := by
  cases values with
  | nil => cases hv
  | cons first values =>
    have hall : ¬ values.all (· == first) = true := by
      intro hall
      have hfirst : ∀ x ∈ first :: values, x = first := by
        intro x hx
        rcases List.mem_cons.mp hx with rfl | hx
        · rfl
        · exact beq_iff_eq.mp (List.all_eq_true.mp hall x hx)
      exact hne ((hfirst v hv).trans (hfirst w hw).symm)
    rw [agreed, if_neg hall]

/-- The common value does not depend on the order of the members, although the loop compares with
the first of them. -/
theorem agreed_perm {values values' : List UInt8} (h : values.Perm values') :
    agreed values = agreed values' := by
  cases values with
  | nil => rw [List.nil_perm.mp h]
  | cons first values =>
    have hne : values' ≠ [] := fun hnil => by
      rw [hnil] at h
      exact absurd (List.perm_nil.mp h) (List.cons_ne_nil _ _)
    by_cases hsame : ∀ v ∈ first :: values, v = first
    · rw [agreed_of_forall (List.cons_ne_nil _ _) hsame,
        agreed_of_forall hne fun v hv => hsame v (h.mem_iff.mpr hv)]
    · push Not at hsame
      obtain ⟨v, hv, hother⟩ := hsame
      rw [agreed_of_ne hv List.mem_cons_self hother,
        agreed_of_ne (h.mem_iff.mp hv) (h.mem_iff.mp List.mem_cons_self) hother]

/-- The most active state does not depend on the order of the members. -/
theorem mostActive_perm {states states' : List UInt8} (h : states.Perm states') :
    mostActive states = mostActive states' := by
  simp only [mostActive, h.mem_iff]

/-- What the history says of a group does not depend on the order of its members. -/
theorem aggregate_perm {events : List Event} {group : GroupKey} {members members' : List NodeId}
    (h : members.Perm members') :
    aggregate events group members = aggregate events group members' := by
  have hsetpoint : lastSetpoint events members = lastSetpoint events members' := by
    simp only [lastSetpoint, h.mem_iff]
  simp only [aggregate, h.length_eq, agreed_perm (h.filterMap _), mostActive_perm (h.filterMap _),
    hsetpoint]

/-! ## The loops -/

section Loops

variable {perNode : NodeMap NodeClimate}

/-- From the first value on, the loop of `aggregateByte` looks for another one. -/
theorem aggregateByteFrom_some (pick : NodeClimate → Option UInt8) (members : List NodeId)
    (first : UInt8) (mixed : Bool) : aggregateByteFrom perNode pick members (some first) mixed =
      if mixed || !(members.filterMap fun member => (perNode member).bind pick).all (· == first)
      then modeMixed else first := by
  -- The fold goes over the members; once a value is there, all that a further one can do is mix.
  induction members generalizing mixed with
  | nil => simp [aggregateByteFrom]
  | cons member members ih =>
    rw [aggregateByteFrom]
    -- A member without an entry, or without this value, is passed over.
    cases hentry : perNode member with
    | none => simpa [hentry] using ih mixed
    | some entry =>
      cases hvalue : pick entry with
      | none => simpa [hentry, hvalue] using ih mixed
      | some value =>
        have hne : (first != value) = !(value == first) := by
          rw [bne, Bool.beq_comm]
        dsimp only
        rw [hvalue]
        dsimp only
        rw [ih, hne]
        simp only [hentry, hvalue, List.filterMap_cons, Option.bind_some, List.all_cons,
          Bool.not_and, Bool.or_assoc]

/-- `aggregateByte` is what the values agree on. -/
theorem aggregateByte_eq (pick : NodeClimate → Option UInt8) (members : List NodeId) :
    aggregateByte perNode members pick =
      agreed (members.filterMap fun member => (perNode member).bind pick) := by
  unfold aggregateByte
  induction members with
  | nil => rfl
  | cons member members ih =>
    rw [aggregateByteFrom]
    cases hentry : perNode member with
    | none => simpa [hentry] using ih
    | some entry =>
      cases hvalue : pick entry with
      | none => simpa [hentry, hvalue] using ih
      | some value =>
        dsimp only
        rw [hvalue]
        dsimp only
        rw [aggregateByteFrom_some]
        simp only [hentry, hvalue, List.filterMap_cons, Option.bind_some, agreed, Bool.false_or]
        cases List.all _ _ <;> rfl

/-- The loop of `aggregateOperatingState` looks for heating first. -/
theorem aggregateOperatingStateFrom_eq (members : List NodeId) (anyCooling : Bool) :
    aggregateOperatingStateFrom perNode members anyCooling =
      if opStateHeating ∈ members.filterMap fun member => (perNode member).bind (·.operatingState)
      then opStateHeating
      else if anyCooling = true ∨
          opStateCooling ∈ members.filterMap fun member => (perNode member).bind (·.operatingState)
      then opStateCooling else opStateIdle := by
  -- Heating ends the fold at once, cooling is remembered and goes on.
  induction members generalizing anyCooling with
  | nil => simp [aggregateOperatingStateFrom]
  | cons member members ih =>
    rw [aggregateOperatingStateFrom]
    cases hentry : perNode member with
    | none => simpa [hentry] using ih anyCooling
    | some entry =>
      cases hstate : entry.operatingState with
      | none => simpa [hentry, hstate] using ih anyCooling
      | some opState =>
        dsimp only
        rw [hstate]
        dsimp only
        by_cases hheating : opState = opStateHeating
        · simp [hentry, hstate, hheating]
        · by_cases hcooling : opState = opStateCooling
          -- A member that cools is outvoted by one that heats further on.
          · rw [if_neg hheating, if_pos hcooling, ih]
            simp [hentry, hstate, hcooling, show opStateHeating ≠ opStateCooling by decide]
          · rw [if_neg hheating, if_neg hcooling, ih]
            simp [hentry, hstate, Ne.symm hheating, Ne.symm hcooling]

/-- What holds of the number of each setpoint that a member has. -/
def EverySetpoint (perNode : NodeMap NodeClimate) (members : List NodeId) (P : ℕ → Prop) : Prop :=
  ∀ member ∈ members, ∀ entry setpoint, perNode member = some entry →
    entry.setpoint = some setpoint → P entry.setpointSeq

/-- What holds of every setpoint's number may be weakened. -/
theorem EverySetpoint.mono {members : List NodeId} {P Q : ℕ → Prop}
    (h : EverySetpoint perNode members P) (hPQ : ∀ n, P n → Q n) :
    EverySetpoint perNode members Q :=
  fun member hmember entry setpoint hentry hset =>
    hPQ _ (h member hmember entry setpoint hentry hset)

/-- A member without a setpoint changes nothing. -/
theorem EverySetpoint.cons_of_none {member : NodeId} {members : List NodeId} {P : ℕ → Prop}
    (h : EverySetpoint perNode members P)
    (hnone : (perNode member).bind (·.setpoint) = none) :
    EverySetpoint perNode (member :: members) P := by
  intro other hother entry setpoint hentry hset
  rcases List.mem_cons.mp hother with rfl | hother
  · rw [hentry, Option.bind_some, hset] at hnone
    cases hnone
  · exact h other hother entry setpoint hentry hset

/-- What holds of the numbers of the members' setpoints holds with one more member when it holds of
the member's own. -/
theorem EverySetpoint.cons {member : NodeId} {members : List NodeId} {entry : NodeClimate}
    {P : ℕ → Prop} (h : EverySetpoint perNode members P) (hentry : perNode member = some entry)
    (hseq : P entry.setpointSeq) : EverySetpoint perNode (member :: members) P := by
  intro other hother entry' setpoint' hentry' hset'
  rcases List.mem_cons.mp hother with rfl | hother
  · obtain rfl := Option.some.inj (hentry.symm.trans hentry')
    exact hseq
  · exact h other hother entry' setpoint' hentry' hset'

/-- What the loop of `aggregateSetpoint` returns is where it started, if all setpoints are older, or
the newest setpoint of a member. -/
theorem aggregateSetpointFrom_spec (members : List NodeId) (best : Setpoint) (bestSeq : ℕ) :
    (aggregateSetpointFrom perNode members best bestSeq = best ∧
      EverySetpoint perNode members (· < bestSeq)) ∨
    ∃ member ∈ members, ∃ entry, perNode member = some entry ∧
      entry.setpoint = some (aggregateSetpointFrom perNode members best bestSeq) ∧
      bestSeq ≤ entry.setpointSeq ∧ EverySetpoint perNode members (· ≤ entry.setpointSeq) := by
  induction members generalizing best bestSeq with
  | nil =>
    refine Or.inl ⟨rfl, fun member hmember => ?_⟩
    cases hmember
  | cons member members ih =>
    rw [aggregateSetpointFrom]
    cases hentry : perNode member with
    | none =>
      -- A member that has reported nothing is passed over.
      have hnone : (perNode member).bind (·.setpoint) = none := by rw [hentry]; rfl
      dsimp only
      rcases ih best bestSeq with ⟨hbest, hold⟩ | ⟨newest, hmem, entry', hs, hset, hseq, hnewest⟩
      · exact Or.inl ⟨hbest, hold.cons_of_none hnone⟩
      · exact Or.inr ⟨newest, List.mem_cons_of_mem _ hmem, entry', hs, hset, hseq,
          hnewest.cons_of_none hnone⟩
    | some entry =>
      dsimp only
      cases hset : entry.setpoint with
      | none =>
        have hnone : (perNode member).bind (·.setpoint) = none := by rw [hentry]; exact hset
        dsimp only
        rcases ih best bestSeq with ⟨hbest, hold⟩ | ⟨newest, hmem, entry', hs, hset', hseq, hnewest⟩
        · exact Or.inl ⟨hbest, hold.cons_of_none hnone⟩
        · exact Or.inr ⟨newest, List.mem_cons_of_mem _ hmem, entry', hs, hset', hseq,
            hnewest.cons_of_none hnone⟩
      | some setpoint =>
        dsimp only
        by_cases hnewer : entry.setpointSeq ≥ bestSeq
        · -- The member's setpoint is the best so far.
          rw [if_pos hnewer]
          refine Or.inr ?_
          rcases ih setpoint entry.setpointSeq with
            ⟨hbest, hold⟩ | ⟨newest, hmem, entry', hs, hset', hseq, hnewest⟩
          · have hle := hold.mono fun n hn => Nat.le_of_lt hn
            refine ⟨member, List.mem_cons_self, entry, hentry, ?_, hnewer,
              hle.cons hentry (Nat.le_refl _)⟩
            rw [hbest, hset]
          · exact ⟨newest, List.mem_cons_of_mem _ hmem, entry', hs, hset',
              Nat.le_trans hnewer hseq, hnewest.cons hentry hseq⟩
        · rw [if_neg hnewer]
          have holder : entry.setpointSeq < bestSeq := Nat.lt_of_not_le hnewer
          rcases ih best bestSeq with
            ⟨hbest, hold⟩ | ⟨newest, hmem, entry', hs, hset', hseq, hnewest⟩
          · exact Or.inl ⟨hbest, hold.cons hentry holder⟩
          · exact Or.inr ⟨newest, List.mem_cons_of_mem _ hmem, entry', hs, hset', hseq,
              hnewest.cons hentry (Nat.le_of_lt (Nat.lt_of_lt_of_le holder hseq))⟩

end Loops

/-! ## The run -/

/-- What has been published for a group. -/
def published (group : GroupKey) (outputs : List Output) : List LogicalState :=
  outputs.filterMap fun output =>
    match output with
    | .logicalState st => if st.group = group then some st else none
    | _ => none

/-- The orchestrator keeps the last reports of each node, and the place of each node's last setpoint
among all setpoints. -/
structure Tracks (events : List Event) (s : State) : Prop where
  /-- The last modes. -/
  mode : ∀ nodeId, (s.perNode nodeId).bind (·.mode) = latest Event.mode? events nodeId
  /-- The last operating states. -/
  operatingState : ∀ nodeId,
    (s.perNode nodeId).bind (·.operatingState) = latest Event.operatingState? events nodeId
  /-- The last fan modes. -/
  fanMode : ∀ nodeId, (s.perNode nodeId).bind (·.fanMode) = latest Event.fanMode? events nodeId
  /-- The last setpoints. -/
  setpoint : ∀ nodeId, (s.perNode nodeId).bind (·.setpoint) = latest Event.setpoint? events nodeId
  /-- The counter counts the setpoints. -/
  counter : s.setpointCounter = (events.filterMap Event.setpoint?).length
  /-- A node's number is the place of its last setpoint. -/
  place : ∀ nodeId entry setpoint, s.perNode nodeId = some entry →
    entry.setpoint = some setpoint → ∃ pre post,
      events.filterMap Event.setpoint? = pre ++ (nodeId, setpoint) :: post ∧
      entry.setpointSeq = pre.length + 1 ∧ ∀ report ∈ post, report.1 ≠ nodeId

/-- The last signature of a group is that of the last state published for it, and consecutive states
differ. -/
structure Quiet (outputs : List Output) (s : State) : Prop where
  /-- The last signature. -/
  last : ∀ group, s.lastSignature group =
    ((published group outputs).getLast?.map LogicalState.signature).getD ""
  /-- Consecutive states differ. -/
  chain : ∀ group, (published group outputs).IsChain (· ≠ ·)

/-- What comes behind a place in a list comes behind every earlier place. -/
theorem mem_of_append_cons {α : Type} {pre post pre' post' : List α} {x x' y : α}
    (heq : pre ++ x :: post = pre' ++ x' :: post') (h : pre'.length ≤ pre.length) (hy : y ∈ post) :
    y ∈ post' := by
  have hlength := congrArg List.length heq
  simp only [List.length_append, List.length_cons] at hlength
  have hpost : post <:+ pre' ++ x' :: post' := ⟨pre ++ [x], by rw [← heq]; simp⟩
  have hpost' : post' <:+ pre' ++ x' :: post' := ⟨pre' ++ [x'], by simp⟩
  exact (List.suffix_of_suffix_length_le hpost hpost' (by omega)).subset hy

/-- Whoever has reported a setpoint has an entry with it. -/
theorem Tracks.exists_entry {events : List Event} {s : State} (h : Tracks events s)
    {report : NodeId × Setpoint} (hreport : report ∈ events.filterMap Event.setpoint?) :
    ∃ entry setpoint, s.perNode report.1 = some entry ∧ entry.setpoint = some setpoint := by
  obtain ⟨last, hlast⟩ := KeyedList.exists_last (List.mem_map_of_mem (f := Prod.fst) hreport)
  have hsetpoint := h.setpoint report.1
  rw [latest, hlast, Option.map_some] at hsetpoint
  obtain ⟨entry, hentry, hset⟩ := Option.bind_eq_some_iff.mp hsetpoint
  exact ⟨entry, last.2, hentry, hset⟩

/-- `aggregateSetpoint` is the last setpoint that a member has reported. -/
theorem Tracks.aggregateSetpoint_eq {events : List Event} {s : State} (h : Tracks events s)
    (members : List NodeId) : aggregateSetpoint s.perNode members = lastSetpoint events members := by
  unfold aggregateSetpoint lastSetpoint
  rcases @aggregateSetpointFrom_spec s.perNode members {} 0 with
    ⟨hnone, hold⟩ | ⟨member, hmember, entry, hs, hset, -, hnewest⟩
  · -- No member has reported a setpoint.
    have hfilter : ((events.filterMap Event.setpoint?).filter
        fun report => decide (report.1 ∈ members)) = [] := by
      rw [List.filter_eq_nil_iff]
      intro report hreport hin
      obtain ⟨entry, setpoint, hs, hset⟩ := h.exists_entry hreport
      exact absurd (hold report.1 (of_decide_eq_true hin) entry setpoint hs hset) (Nat.not_lt_zero _)
    rw [hnone, hfilter]
    rfl
  · -- After the newest one, no member has reported another.
    obtain ⟨pre, post, hsplit, hseq, hquiet⟩ := h.place member entry _ hs hset
    have hpost : (post.filter fun report => decide (report.1 ∈ members)) = [] := by
      rw [List.filter_eq_nil_iff]
      intro report hreport hin
      have hmem : report ∈ events.filterMap Event.setpoint? := by
        rw [hsplit]
        exact List.mem_append_right _ (List.mem_cons_of_mem _ hreport)
      obtain ⟨entry', setpoint', hs', hset'⟩ := h.exists_entry hmem
      obtain ⟨pre', post', hsplit', hseq', hquiet'⟩ := h.place report.1 entry' setpoint' hs' hset'
      have hle := hnewest report.1 (of_decide_eq_true hin) entry' setpoint' hs' hset'
      -- The counters order the two reports, and so do their places among the events.
      have hlength : pre'.length ≤ pre.length := by omega
      exact hquiet' report (mem_of_append_cons (hsplit.symm.trans hsplit') hlength hreport) rfl
    have hcons : (((member, aggregateSetpointFrom s.perNode members {} 0) :: post).filter
        fun report => decide (report.1 ∈ members)) =
          [(member, aggregateSetpointFrom s.perNode members {} 0)] := by
      rw [List.filter_cons_of_pos (by simpa using hmember), hpost]
    rw [hsplit, List.filter_append, hcons, List.getLast?_concat]
    rfl

/-- The state that the orchestrator aggregates is what the history says. -/
theorem Tracks.aggregateState_eq {events : List Event} {s : State} (h : Tracks events s)
    (group : GroupKey) (members : List NodeId) :
    aggregateState s.perNode group members = aggregate events group members := by
  simp only [aggregateState, aggregate, aggregateByte_eq, aggregateOperatingState,
    aggregateOperatingStateFrom_eq, h.mode, h.operatingState, h.fanMode, h.aggregateSetpoint_eq,
    mostActive, Bool.false_eq_true, false_or]

/-! ### Reports -/

/-- What a report changes in the entry of its node is the last report of its kind. -/
theorem latest_report {α : Type} {report? : Event → Option (NodeId × α)}
    {pick : NodeClimate → Option α} {events : List Event} {event : Event} {s : State}
    {nodeId : NodeId} {climate : NodeClimate}
    (h : ∀ member, (s.perNode member).bind pick = latest report? events member)
    (hdefault : pick {} = none)
    (hreport : (report? event = none ∧ pick climate = pick (s.climate nodeId)) ∨
      ∃ value, report? event = some (nodeId, value) ∧ pick climate = some value)
    (member : NodeId) : (Function.update s.perNode nodeId (some climate) member).bind pick =
      latest report? (events ++ [event]) member := by
  -- A node without an entry counts as one whose entry has nothing reported.
  have hpick : pick (s.climate nodeId) = (s.perNode nodeId).bind pick := by
    unfold State.climate
    cases s.perNode nodeId with
    | none => exact hdefault
    | some entry => rfl
  rcases hreport with ⟨hnone, hsame⟩ | ⟨value, hsome, hvalue⟩
  -- The event does not report this value: the latest one is the one before.
  · rw [latest_concat_none hnone, ← h, Function.update_apply]
    split
    · next hmember => rw [Option.bind_some, hsame, hpick, hmember]
    · rfl
  -- The event reports it, which is then the latest for its node and changes nothing for another.
  · rw [latest_concat_some hsome, Function.update_apply]
    split
    · exact hvalue
    · exact h member

/-- A report that is no setpoint leaves the number of setpoints. -/
theorem Tracks.counter_of_none {events : List Event} {event : Event} {s : State}
    (h : Tracks events s) (hnone : event.setpoint? = none) :
    s.setpointCounter = ((events ++ [event]).filterMap Event.setpoint?).length := by
  rw [filterMap_concat_none hnone]
  exact h.counter

/-- A report of another kind leaves the places of the setpoints. -/
theorem Tracks.place_of_none {events : List Event} {event : Event} {s : State}
    (h : Tracks events s) (hnone : event.setpoint? = none) {nodeId : NodeId} {climate : NodeClimate}
    (hset : climate.setpoint = (s.climate nodeId).setpoint)
    (hseq : climate.setpointSeq = (s.climate nodeId).setpointSeq) :
    ∀ member entry setpoint,
      Function.update s.perNode nodeId (some climate) member = some entry →
      entry.setpoint = some setpoint → ∃ pre post,
        (events ++ [event]).filterMap Event.setpoint? = pre ++ (member, setpoint) :: post ∧
        entry.setpointSeq = pre.length + 1 ∧ ∀ report ∈ post, report.1 ≠ member := by
  intro member entry setpoint hentry hsetpoint
  rw [filterMap_concat_none hnone]
  rw [Function.update_apply] at hentry
  split at hentry
  · next hmember =>
    subst hmember
    obtain rfl := Option.some.inj hentry
    rw [hset] at hsetpoint
    -- A setpoint is in the entry only if there was an entry.
    unfold State.climate at hsetpoint hseq
    cases hs : s.perNode member with
    | none =>
      rw [hs] at hsetpoint
      cases hsetpoint
    | some entry =>
      rw [hs] at hsetpoint hseq
      rw [hseq]
      exact h.place member entry setpoint hs hsetpoint
  · exact h.place member entry setpoint hentry hsetpoint

/-- An event that is no report, and leaves the climates, keeps track of the reports. -/
theorem Tracks.of_frame {events : List Event} {event : Event} {s s' : State} (h : Tracks events s)
    (hperNode : s'.perNode = s.perNode) (hcounter : s'.setpointCounter = s.setpointCounter)
    (hmode : event.mode? = none) (hoperatingState : event.operatingState? = none)
    (hfanMode : event.fanMode? = none) (hsetpoint : event.setpoint? = none) :
    Tracks (events ++ [event]) s' where
  mode member := by rw [hperNode, latest_concat_none hmode, h.mode]
  operatingState member := by rw [hperNode, latest_concat_none hoperatingState, h.operatingState]
  fanMode member := by rw [hperNode, latest_concat_none hfanMode, h.fanMode]
  setpoint member := by rw [hperNode, latest_concat_none hsetpoint, h.setpoint]
  counter := by rw [hcounter, filterMap_concat_none hsetpoint, h.counter]
  place := by
    rw [hperNode, filterMap_concat_none hsetpoint]
    exact h.place

/-- What is tracked does not depend on the signatures. -/
theorem Tracks.of_signatures {events : List Event} {s : State} (h : Tracks events s)
    (signatures : GroupKey → String) : Tracks events { s with lastSignature := signatures } where
  mode := h.mode
  operatingState := h.operatingState
  fanMode := h.fanMode
  setpoint := h.setpoint
  counter := h.counter
  place := h.place

/-- The orchestrator's handler of a mode report keeps track of the reports: the node's mode is now
the reported one. -/
theorem Tracks.setMode {events : List Event} {s : State} (h : Tracks events s) (nodeId : NodeId)
    (mode : UInt8) : Tracks (events ++ [.modeReport nodeId mode])
      (s.setClimate nodeId { s.climate nodeId with mode := some mode }) where
  mode := latest_report h.mode rfl (Or.inr ⟨mode, rfl, rfl⟩)
  operatingState := latest_report h.operatingState rfl (Or.inl ⟨rfl, rfl⟩)
  fanMode := latest_report h.fanMode rfl (Or.inl ⟨rfl, rfl⟩)
  setpoint := latest_report h.setpoint rfl (Or.inl ⟨rfl, rfl⟩)
  counter := h.counter_of_none rfl
  place := h.place_of_none rfl rfl rfl

/-- The handler of an operating state report keeps track of the reports. -/
theorem Tracks.setOperatingState {events : List Event} {s : State} (h : Tracks events s)
    (nodeId : NodeId) (state : UInt8) : Tracks (events ++ [.operatingStateReport nodeId state])
      (s.setClimate nodeId { s.climate nodeId with operatingState := some state }) where
  mode := latest_report h.mode rfl (Or.inl ⟨rfl, rfl⟩)
  operatingState := latest_report h.operatingState rfl (Or.inr ⟨state, rfl, rfl⟩)
  fanMode := latest_report h.fanMode rfl (Or.inl ⟨rfl, rfl⟩)
  setpoint := latest_report h.setpoint rfl (Or.inl ⟨rfl, rfl⟩)
  counter := h.counter_of_none rfl
  place := h.place_of_none rfl rfl rfl

/-- The handler of a fan mode report keeps track of the reports. -/
theorem Tracks.setFanMode {events : List Event} {s : State} (h : Tracks events s) (nodeId : NodeId)
    (mode : UInt8) : Tracks (events ++ [.fanModeReport nodeId mode])
      (s.setClimate nodeId { s.climate nodeId with fanMode := some mode }) where
  mode := latest_report h.mode rfl (Or.inl ⟨rfl, rfl⟩)
  operatingState := latest_report h.operatingState rfl (Or.inl ⟨rfl, rfl⟩)
  fanMode := latest_report h.fanMode rfl (Or.inr ⟨mode, rfl, rfl⟩)
  setpoint := latest_report h.setpoint rfl (Or.inl ⟨rfl, rfl⟩)
  counter := h.counter_of_none rfl
  place := h.place_of_none rfl rfl rfl

/-- The handler of a setpoint report keeps track of the reports: the setpoint takes the next
place. -/
theorem Tracks.setSetpoint {events : List Event} {s : State} (h : Tracks events s)
    (nodeId : NodeId) (setpoint : Setpoint) :
    Tracks (events ++ [.setpointReport nodeId setpoint])
      { s.setClimate nodeId { s.climate nodeId with
          setpoint := some setpoint, setpointSeq := s.setpointCounter + 1 } with
        setpointCounter := s.setpointCounter + 1 } where
  mode := latest_report h.mode rfl (Or.inl ⟨rfl, rfl⟩)
  operatingState := latest_report h.operatingState rfl (Or.inl ⟨rfl, rfl⟩)
  fanMode := latest_report h.fanMode rfl (Or.inl ⟨rfl, rfl⟩)
  setpoint := latest_report h.setpoint rfl (Or.inr ⟨setpoint, rfl, rfl⟩)
  -- The counter has counted the reports.
  counter := by
    rw [filterMap_concat_some rfl, List.length_append, ← h.counter]
    rfl
  place := by
    intro member entry setpoint' hentry hset
    rw [filterMap_concat_some rfl]
    replace hentry : Function.update s.perNode nodeId _ member = some entry := hentry
    rw [Function.update_apply] at hentry
    split at hentry
    -- The node's own setpoint is the report just added, and nothing comes behind it.
    · next hmember =>
      subst hmember
      obtain rfl := Option.some.inj hentry
      obtain rfl := Option.some.inj hset
      refine ⟨events.filterMap Event.setpoint?, [], rfl, ?_, fun report hreport => ?_⟩
      · rw [← h.counter]
      · cases hreport
    -- The place of another node's setpoint is the old one, and the report behind it is not of that
    -- node.
    · next hmember =>
      obtain ⟨pre, post, hsplit, hseq, hquiet⟩ := h.place member entry setpoint' hentry hset
      refine ⟨pre, post ++ [(nodeId, setpoint)], by rw [hsplit]; simp, hseq, ?_⟩
      intro report hreport
      rcases List.mem_append.mp hreport with hreport | hreport
      · exact hquiet report hreport
      · obtain rfl := List.mem_singleton.mp hreport
        exact Ne.symm hmember

/-! ### Publishing -/

/-- The group's last published state is what its members now add up to. -/
def Shows (outputs : List Output) (s : State) (group : GroupKey) : Prop :=
  (published group outputs).getLast? = some (aggregateState s.perNode group (s.nodesWith group))

/-- A group's aggregate carries the group's own key. -/
theorem group_aggregateState (perNode : NodeMap NodeClimate) (group : GroupKey)
    (members : List NodeId) : (aggregateState perNode group members).group = group := rfl

/-- What has been published for a group carries its key. -/
theorem group_of_mem_published {group : GroupKey} {outputs : List Output} {st : LogicalState}
    (h : st ∈ published group outputs) : st.group = group := by
  obtain ⟨output, -, houtput⟩ := List.mem_filterMap.mp h
  cases output with
  | logicalState st' =>
    dsimp only at houtput
    split at houtput
    · next hgroup =>
      obtain rfl := Option.some.inj houtput
      exact hgroup
    · cases houtput
  | setMode | setSetpoint => cases houtput

/-- Of two lists of outputs, the group is published what it is in the first and then what it is in
the second. -/
theorem published_append (group : GroupKey) (outputs outputs' : List Output) :
    published group (outputs ++ outputs') = published group outputs ++ published group outputs' :=
  List.filterMap_append

/-- A state that is published is published for its own group. -/
theorem published_singleton_self (st : LogicalState) :
    published st.group [.logicalState st] = [st] := by
  simp [published]

/-- A state that is published is not published for any other group. -/
theorem published_singleton_of_ne {group : GroupKey} {st : LogicalState} (h : st.group ≠ group) :
    published group [.logicalState st] = [] := by
  simp [published, h]

section Publish

variable {outputs : List Output} {s : State}

/-- A state is suppressed only if it is the last one published. -/
theorem Quiet.getLast?_eq (h : Quiet outputs s) {st : LogicalState}
    (hsignature : s.lastSignature st.group = st.signature) :
    (published st.group outputs).getLast? = some st := by
  have hlast := h.last st.group
  cases hpublished : (published st.group outputs).getLast? with
  | none =>
    rw [hpublished, hsignature] at hlast
    exact absurd hlast (signature_ne_empty st)
  | some st' =>
    rw [hpublished, hsignature] at hlast
    have hgroup := group_of_mem_published (List.mem_of_getLast? hpublished)
    rw [signature_injective hgroup.symm hlast]

/-- A state with another signature differs from the last one published. -/
theorem Quiet.concat (h : Quiet outputs s) {st : LogicalState}
    (hsignature : s.lastSignature st.group ≠ st.signature) :
    Quiet (outputs ++ [.logicalState st])
      { s with lastSignature := Function.update s.lastSignature st.group st.signature } where
  last group := by
    rw [published_append]
    by_cases hgroup : st.group = group
    · subst hgroup
      rw [published_singleton_self, List.getLast?_concat]
      exact Function.update_self ..
    · rw [published_singleton_of_ne hgroup, List.append_nil, ← h.last group]
      exact Function.update_of_ne (Ne.symm hgroup) ..
  chain group := by
    rw [published_append]
    by_cases hgroup : st.group = group
    · subst hgroup
      rw [published_singleton_self, List.isChain_append]
      refine ⟨h.chain st.group, List.isChain_singleton st, fun last hlast st' hst' => ?_⟩
      obtain rfl : st = st' := Option.some.inj hst'
      -- The last signature is that of the last state.
      rintro rfl
      refine hsignature ?_
      rw [h.last last.group, Option.mem_def.mp hlast]
      rfl
    · rw [published_singleton_of_ne hgroup, List.append_nil]
      exact h.chain group

/-- Only the signatures change when a group's state is published. -/
theorem publishGroupState_frame (s : State) (group : GroupKey) :
    ∃ signatures, (s.publishGroupState group).1 = { s with lastSignature := signatures } := by
  unfold State.publishGroupState
  dsimp only
  split
  · exact ⟨s.lastSignature, rfl⟩
  · exact ⟨_, rfl⟩

/-- Publishing a group's state publishes no state with the signature of the last one: that one is
held back. -/
theorem Quiet.publishGroupState (h : Quiet outputs s) (group : GroupKey) :
    Quiet (outputs ++ (s.publishGroupState group).2) (s.publishGroupState group).1 := by
  unfold State.publishGroupState
  dsimp only
  split
  · rw [List.append_nil]
    exact h
  · next hsignature => exact h.concat hsignature

/-- Once its state has been published, a group shows what its members add up to. -/
theorem Quiet.shows_publishGroupState (h : Quiet outputs s) (group : GroupKey) :
    Shows (outputs ++ (s.publishGroupState group).2) (s.publishGroupState group).1 group := by
  unfold State.publishGroupState Shows
  dsimp only
  split
  · next hsignature =>
    rw [List.append_nil]
    exact @Quiet.getLast?_eq outputs s h (aggregateState s.perNode group (s.nodesWith group))
      hsignature
  · rw [published_append]
    have hself := published_singleton_self (aggregateState s.perNode group (s.nodesWith group))
    rw [group_aggregateState] at hself
    rw [hself, List.getLast?_concat]

/-- A group that shows what its members add up to still does after any group's state is published,
since that moves only the last published states. -/
theorem Shows.publishGroupState {group : GroupKey} (hshows : Shows outputs s group)
    (h : Quiet outputs s) (other : GroupKey) :
    Shows (outputs ++ (s.publishGroupState other).2) (s.publishGroupState other).1 group := by
  by_cases hother : other = group
  · subst hother
    exact h.shows_publishGroupState other
  · have hgroup : (aggregateState s.perNode other (s.nodesWith other)).group ≠ group := hother
    unfold State.publishGroupState Shows
    dsimp only
    split
    · rw [List.append_nil]
      exact hshows
    · rw [published_append, published_singleton_of_ne hgroup, List.append_nil]
      exact hshows

end Publish

/-- Only the signatures change when the groups of a node are refreshed. -/
theorem refreshGroups_frame (s : State) (nodeId : NodeId) (groups : List GroupKey) :
    ∃ signatures, (s.refreshGroups nodeId groups).1 = { s with lastSignature := signatures } := by
  induction groups generalizing s with
  | nil => exact ⟨s.lastSignature, rfl⟩
  | cons group groups ih =>
    unfold State.refreshGroups
    split
    · obtain ⟨signatures, hpublish⟩ := publishGroupState_frame s group
      obtain ⟨signatures', hrest⟩ := ih (s.publishGroupState group).1
      refine ⟨signatures', ?_⟩
      dsimp only
      rw [hrest, hpublish]
    · exact ih s

/-- Refreshing the node's groups one after the other still publishes no state twice in a row, by
induction on the groups. -/
theorem Quiet.refreshGroups {outputs : List Output} {s : State} (h : Quiet outputs s)
    (nodeId : NodeId) (groups : List GroupKey) :
    Quiet (outputs ++ (s.refreshGroups nodeId groups).2) (s.refreshGroups nodeId groups).1 := by
  induction groups generalizing s outputs with
  | nil =>
    unfold State.refreshGroups
    rw [List.append_nil]
    exact h
  | cons group groups ih =>
    unfold State.refreshGroups
    split
    · dsimp only
      rw [← List.append_assoc]
      exact ih (h.publishGroupState group)
    · exact ih h

/-- A group that shows what its members add up to still does after any groups are refreshed. -/
theorem Shows.refreshGroups {outputs : List Output} {s : State} {group : GroupKey}
    (hshows : Shows outputs s group) (h : Quiet outputs s) (nodeId : NodeId)
    (groups : List GroupKey) :
    Shows (outputs ++ (s.refreshGroups nodeId groups).2) (s.refreshGroups nodeId groups).1
      group := by
  induction groups generalizing s outputs with
  | nil =>
    unfold State.refreshGroups
    rw [List.append_nil]
    exact hshows
  | cons other groups ih =>
    unfold State.refreshGroups
    split
    · dsimp only
      rw [← List.append_assoc]
      exact ih (hshows.publishGroupState h other) (h.publishGroupState other)
    · exact ih hshows h

/-- After a refresh of groups of the node, each of them shows what its members add up to. -/
theorem Quiet.shows_refreshGroups {outputs : List Output} {s : State} (h : Quiet outputs s)
    {nodeId : NodeId} {groups : List GroupKey} {group : GroupKey} (hgroup : group ∈ groups)
    (hmember : nodeId ∈ s.nodesWith group) :
    Shows (outputs ++ (s.refreshGroups nodeId groups).2) (s.refreshGroups nodeId groups).1
      group := by
  -- The groups are refreshed in order. Once the group in question has been, the others leave what
  -- it shows alone.
  induction groups generalizing s outputs with
  | nil => cases hgroup
  | cons other groups ih =>
    unfold State.refreshGroups
    split
    · next hother =>
      dsimp only
      rw [← List.append_assoc]
      -- It is the turn of the group itself.
      rcases List.mem_cons.mp hgroup with rfl | hgroup
      · exact (h.shows_publishGroupState group).refreshGroups (h.publishGroupState group) nodeId groups
      · obtain ⟨signatures, hpublish⟩ := publishGroupState_frame s other
        refine ih (h.publishGroupState other) hgroup ?_
        rw [hpublish]
        exact hmember
    -- A group that the node is not a member of is not refreshed, so it is not the one in question.
    · next hother =>
      rcases List.mem_cons.mp hgroup with rfl | hgroup
      · exact absurd hmember hother
      · exact ih h hgroup hmember

/-! ## The run -/

/-- The node that a report is from. -/
def Event.source? : Event → Option NodeId
  | .modeReport sourceNodeId _ | .operatingStateReport sourceNodeId _
  | .fanModeReport sourceNodeId _ | .setpointReport sourceNodeId _ => some sourceNodeId
  | _ => none

/-- The group that a command is for. -/
def Event.addresses? : Event → Option GroupKey
  | .modeCommand group _ | .setpointCommand group _ _ _ _ => some group
  | _ => none

/-- A report is recorded, and then the groups of its node are refreshed. -/
theorem Tracks.exists_recorded {events : List Event} {s : State} (h : Tracks events s)
    {report : Event} {nodeId : NodeId} (hsource : report.source? = some nodeId) :
    ∃ s', Tracks (events ++ [report]) s' ∧ s'.lastSignature = s.lastSignature ∧
      s'.nodesWith = s.nodesWith ∧ s'.knownGroups = s.knownGroups ∧
      s.step report = s'.refreshGroups nodeId s.knownGroups := by
  cases report with
  | modeReport sourceNodeId mode =>
    obtain rfl := Option.some.inj hsource
    exact ⟨_, h.setMode sourceNodeId mode, rfl, rfl, rfl, rfl⟩
  | operatingStateReport sourceNodeId state =>
    obtain rfl := Option.some.inj hsource
    exact ⟨_, h.setOperatingState sourceNodeId state, rfl, rfl, rfl, rfl⟩
  | fanModeReport sourceNodeId mode =>
    obtain rfl := Option.some.inj hsource
    exact ⟨_, h.setFanMode sourceNodeId mode, rfl, rfl, rfl, rfl⟩
  | setpointReport sourceNodeId setpoint =>
    obtain rfl := Option.some.inj hsource
    exact ⟨_, h.setSetpoint sourceNodeId setpoint, rfl, rfl, rfl, rfl⟩
  | modeCommand | setpointCommand | metadataChanged | registryChanged => cases hsource

/-- A group is known after one is inserted when it is that one or was known. -/
theorem mem_knownGroups_insertGroup {s : State} {group g : GroupKey} :
    g ∈ (s.insertGroup group).knownGroups ↔ g = group ∨ g ∈ s.knownGroups := by
  unfold State.insertGroup
  split
  · next hgroup =>
    constructor
    · exact Or.inr
    · rintro (rfl | hg)
      · exact hgroup
      · exact hg
  · exact List.mem_orderedInsert _

/-- Only the known groups change when a group is inserted. -/
theorem insertGroup_frame (s : State) (group : GroupKey) :
    ∃ groups, s.insertGroup group = { s with knownGroups := groups } := by
  unfold State.insertGroup
  split
  · exact ⟨s.knownGroups, rfl⟩
  · exact ⟨_, rfl⟩

/-- What holds of the last published states depends on the signatures only. -/
theorem Quiet.congr {outputs : List Output} {s s' : State} (h : Quiet outputs s)
    (hsignature : s'.lastSignature = s.lastSignature) : Quiet outputs s' where
  last group := by rw [hsignature, h.last]
  chain := h.chain

/-- What is published for no group leaves what is published. -/
theorem Quiet.append {outputs outputs' : List Output} {s : State} (h : Quiet outputs s)
    (hnone : ∀ group, published group outputs' = []) : Quiet (outputs ++ outputs') s where
  last group := by rw [published_append, hnone, List.append_nil, h.last]
  chain group := by
    rw [published_append, hnone, List.append_nil]
    exact h.chain group

/-- What holds after a run: the reports are tracked, what is published is quiet, and the known
groups are those that have been addressed. -/
structure Mirrors (events : List Event) (outputs : List Output) (s : State) : Prop where
  /-- The reports are tracked. -/
  tracks : Tracks events s
  /-- What is published is quiet. -/
  quiet : Quiet outputs s
  /-- The known groups. -/
  known : ∀ group, group ∈ s.knownGroups ↔ ∃ event ∈ events, event.addresses? = some group

/-- An event that addresses no group makes none known. -/
theorem known_concat_none {events : List Event} {event : Event} {group : GroupKey}
    (h : event.addresses? = none) : (∃ e ∈ events ++ [event], e.addresses? = some group) ↔
      ∃ e ∈ events, e.addresses? = some group := by
  simp [h, or_and_right, exists_or]

/-- An event that addresses a group makes that group known and no other. -/
theorem known_concat_some {events : List Event} {event : Event} {group g : GroupKey}
    (h : event.addresses? = some group) : (∃ e ∈ events ++ [event], e.addresses? = some g) ↔
      g = group ∨ ∃ e ∈ events, e.addresses? = some g := by
  simp [h, or_and_right, exists_or, or_comm, eq_comm]

/-- A command that addresses a group, and publishes no state, makes the group known and keeps the
invariant. -/
theorem Mirrors.insertGroup {events : List Event} {outputs outputs' : List Output} {s : State}
    (h : Mirrors events outputs s) {event : Event} {group : GroupKey}
    (haddresses : event.addresses? = some group) (hmode : event.mode? = none)
    (hoperatingState : event.operatingState? = none) (hfanMode : event.fanMode? = none)
    (hsetpoint : event.setpoint? = none) (hnone : ∀ g, published g outputs' = []) :
    Mirrors (events ++ [event]) (outputs ++ outputs') (s.insertGroup group) := by
  obtain ⟨groups, hframe⟩ := insertGroup_frame s group
  refine ⟨h.tracks.of_frame ?_ ?_ hmode hoperatingState hfanMode hsetpoint,
    (h.quiet.congr ?_).append hnone, fun g => ?_⟩
  · rw [hframe]
  · rw [hframe]
  · rw [hframe]
  · rw [mem_knownGroups_insertGroup, h.known, known_concat_some haddresses]

/-- Every event keeps the invariant: a report is tracked and refreshes the groups of its node, and a
command makes its group known. -/
theorem Mirrors.step {events : List Event} {outputs : List Output} {s : State}
    (h : Mirrors events outputs s) (event : Event) :
    Mirrors (events ++ [event]) (outputs ++ (s.step event).2) (s.step event).1 := by
  -- A report is recorded first, and then each known group with its node is published.
  have hreport : ∀ nodeId, event.source? = some nodeId → event.addresses? = none →
      Mirrors (events ++ [event]) (outputs ++ (s.step event).2) (s.step event).1 := by
    intro nodeId hsource haddresses
    obtain ⟨s', htracks, hsignature, -, hknown, hstep⟩ := h.tracks.exists_recorded hsource
    obtain ⟨signatures, hframe⟩ := refreshGroups_frame s' nodeId s.knownGroups
    have hquiet := h.quiet.congr hsignature
    rw [hstep]
    refine ⟨?_, hquiet.refreshGroups nodeId s.knownGroups, fun group => ?_⟩
    · rw [hframe]
      exact htracks.of_signatures signatures
    · rw [hframe, hknown, h.known, known_concat_none haddresses]
  -- The commands of a group are sent to its members and are no state of the group.
  have hmap : ∀ (members : List NodeId) (f : NodeId → Output),
      (∀ member st, f member ≠ .logicalState st) → ∀ group, published group (members.map f) = [] := by
    intro members f hf group
    unfold published
    rw [List.filterMap_map, List.filterMap_eq_nil_iff]
    intro member _
    dsimp only [Function.comp_apply]
    split
    · next st hst => exact absurd hst (hf member st)
    · rfl
  cases event with
  | modeCommand group mode =>
    exact h.insertGroup rfl rfl rfl rfl rfl (hmap _ _ fun _ _ => Output.noConfusion)
  | setpointCommand group setpointType precision scale value =>
    exact h.insertGroup rfl rfl rfl rfl rfl (hmap _ _ fun _ _ => Output.noConfusion)
  | modeReport sourceNodeId | operatingStateReport sourceNodeId | fanModeReport sourceNodeId
  | setpointReport sourceNodeId => exact hreport sourceNodeId rfl rfl
  -- A change of the memberships or nodes records nothing and publishes nothing.
  | metadataChanged | registryChanged =>
    refine ⟨h.tracks.of_frame rfl rfl rfl rfl rfl rfl, (h.quiet.append fun _ => rfl).congr rfl,
      fun group => ?_⟩
    rw [known_concat_none rfl]
    exact h.known group

/-- After every run the reports are tracked, no state was published twice in a row, and the known
groups are those that were addressed. -/
theorem mirrors_exec (nodesWith : GroupKey → List NodeId) (nodes : List NodeInfo)
    (events : List Event) :
    Mirrors events (emitted State.step { nodesWith, nodes } events)
      (exec State.step { nodesWith, nodes } events) := by
  induction events using List.reverseRecOn with
  | nil =>
    refine ⟨⟨fun _ => rfl, fun _ => rfl, fun _ => rfl, fun _ => rfl, rfl, ?_⟩,
      ⟨fun _ => rfl, fun _ => List.isChain_nil⟩, fun group => ?_⟩
    · intro nodeId entry setpoint hentry
      cases hentry
    · simp [exec]
  | append_singleton events event ih =>
    rw [exec_concat, emitted_concat]
    exact ih.step event

/-- A logical thermostat mirrors its members: after a report of a member of a group that a client
has addressed, the last state published for the group is what its members' last reports add up to;
no state is published twice in a row; and the order of the members does not matter. -/
theorem thermostat_mirrors_members (nodesWith : GroupKey → List NodeId) (nodes : List NodeInfo)
    (events : List Event) (group : GroupKey) :
    let start : State := { nodesWith, nodes }
    let s := exec State.step start events
    (∀ report nodeId, report.source? = some nodeId →
      (∃ event ∈ events, event.addresses? = some group) → nodeId ∈ s.nodesWith group →
      (published group (emitted State.step start (events ++ [report]))).getLast? =
        some (aggregate (events ++ [report]) group (s.nodesWith group))) ∧
    (published group (emitted State.step start events)).IsChain (· ≠ ·) ∧
    ∀ members members', members.Perm members' →
      aggregateState s.perNode group members = aggregateState s.perNode group members' := by
  intro start s
  have h : Mirrors events (emitted State.step start events) s := mirrors_exec nodesWith nodes events
  refine ⟨?_, h.quiet.chain group, ?_⟩
  -- By the step the group has just been refreshed, and what was recorded is what the events report.
  · intro report nodeId hsource hknown hmember
    obtain ⟨s', htracks, hsignature, hnodesWith, -, hstep⟩ := h.tracks.exists_recorded hsource
    obtain ⟨signatures, hframe⟩ := refreshGroups_frame s' nodeId s.knownGroups
    have hquiet := h.quiet.congr hsignature
    have hshows := hquiet.shows_refreshGroups ((h.known group).mpr hknown)
      (by rw [hnodesWith]; exact hmember)
    rw [emitted_concat]
    rw [Shows, ← hstep] at hshows
    rw [hshows, hstep, hframe, htracks.aggregateState_eq, hnodesWith]
  -- The aggregate is read off the events, where the order of the members does not count.
  · intro members members' hperm
    rw [h.tracks.aggregateState_eq, h.tracks.aggregateState_eq, aggregate_perm hperm]

/-- The group of the sample runs. -/
def sampleGroup : GroupKey := ("room", "hall")

/-- Two members, one of which heats in another mode. -/
def sampleEvents : List Event :=
  [.modeCommand sampleGroup 1, .modeReport 5 1, .setpointReport 6 { type := 1, value := 21 },
    .operatingStateReport 5 opStateHeating]

/-- Two members, one reported mode and the group's first request: the group is published a state
that its members' reports add up to. -/
theorem thermostat_mirrors_members_sample :
    (published sampleGroup (emitted State.step { nodesWith := fun _ => [5, 6], nodes := [] }
        (sampleEvents ++ [.modeReport 6 2]))).getLast? =
      some ⟨"room", "hall", 2, modeMixed, opStateHeating, 0, 1, 0, 0, 21⟩ :=
  ((thermostat_mirrors_members (fun _ => [5, 6]) [] sampleEvents sampleGroup).1 (.modeReport 6 2) 6
    rfl ⟨.modeCommand sampleGroup 1, List.mem_cons_self, rfl⟩ (by decide)).trans (by decide)

end Zwaved.Thermostat
