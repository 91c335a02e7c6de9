import Zwaved.Inclusion.Setup
import Zwaved.Interview
import Zwaved.S0.Bootstrap
import Zwaved.S2.Bootstrap
import Zwaved.Thermostat.Orchestrator

/-!
# What a node supports

A node's command-class list has two halves: what the node answers and, after the mark, what it only
emits. Five modules read the list. `scanSupported` stops at the mark; the interview, the two
bootstraps and the thermostats search the whole list, and so take a class that the node only emits
for one that it answers. They agree on exactly the lists on which none of the classes that they
search for occurs in the second half alone (`agrees_iff`).
-/

namespace Zwaved.Inclusion

open InclusionOrchestrator (SupportedCcs scanFrom scanSupported ccMark ccAssociation
  ccConfiguration ccWakeUp)
open Storage (NodeInfo)

/-- The classes that the node answers: those before the mark. -/
def supportedHalf (commandClasses : Bytes) : Bytes := commandClasses.takeWhile (· ≠ ccMark)

/-- The five readers of a node's list decide as they would if everything from the mark on was
dropped from it, in whatever state they are. -/
structure Agrees (commandClasses : Bytes) : Prop where
  /-- `scanSupported`. -/
  setup : scanSupported commandClasses = scanSupported (supportedHalf commandClasses)
  /-- The interview's steps, and whether it is queued or deferred. -/
  interview : ∀ sessions nodeId, Interview.onNodeIncluded sessions nodeId commandClasses =
    Interview.onNodeIncluded sessions nodeId (supportedHalf commandClasses)
  /-- The start of the S0 bootstrap. -/
  securityZero : ∀ networkKey s nodeId,
    S0.Bootstrap.onNodeIncluded networkKey s nodeId commandClasses =
      S0.Bootstrap.onNodeIncluded networkKey s nodeId (supportedHalf commandClasses)
  /-- The start of the S2 bootstrap. -/
  securityTwo : ∀ (s : S2.Bootstrap) nodeId keyPair,
    s.onNodeIncluded nodeId commandClasses keyPair =
      s.onNodeIncluded nodeId (supportedHalf commandClasses) keyPair
  /-- The fan-out of a thermostat command, with the list anywhere in the registry. -/
  thermostat : ∀ cls ∈ [Thermostat.ccThermostatMode, Thermostat.ccThermostatSetpoint],
    ∀ (pre post : List NodeInfo) (info : NodeInfo) nodeId,
      Thermostat.supportsCc (pre ++ { info with commandClasses } :: post) nodeId cls =
        Thermostat.supportsCc
          (pre ++ { info with commandClasses := supportedHalf commandClasses } :: post) nodeId cls

/-- The classes that are searched for in the whole list. -/
def searchedClasses : Bytes :=
  [Interview.multiChannel, Interview.zwavePlusInfo, Interview.wakeUp, Interview.security0,
    Interview.security2, Thermostat.ccThermostatMode, Thermostat.ccThermostatSetpoint]

/-- What the node answers is in its list. -/
theorem mem_of_mem_supportedHalf {cls : UInt8} {commandClasses : Bytes}
    (h : cls ∈ supportedHalf commandClasses) : cls ∈ commandClasses :=
  (List.takeWhile_prefix _).subset h

/-- The supported half ends at the mark, and otherwise goes on behind each class. -/
theorem supportedHalf_cons (cls : UInt8) (commandClasses : Bytes) :
    supportedHalf (cls :: commandClasses) =
      if cls = ccMark then [] else cls :: supportedHalf commandClasses := by
  by_cases hmark : cls = ccMark
  · simp [supportedHalf, hmark]
  · simp [supportedHalf, hmark]

/-! ## The setup -/

/-- `scanSupported` drops what comes after the mark. -/
theorem scanFrom_supportedHalf (found : SupportedCcs) (commandClasses : Bytes) :
    scanFrom found (supportedHalf commandClasses) = scanFrom found commandClasses := by
  induction commandClasses generalizing found with
  | nil => rfl
  | cons cls commandClasses ih =>
    rw [supportedHalf_cons]
    by_cases hmark : cls = ccMark
    · rw [if_pos hmark, scanFrom, scanFrom, if_pos hmark]
    · rw [if_neg hmark, scanFrom, scanFrom, if_neg hmark]
      split
      · exact ih _
      · split
        · exact ih _
        · split
          · exact ih _
          · exact ih _

/-! ## The searches -/

section Searches

variable {ccs ccs' : Bytes}

/-- After an inclusion the interview has the session that the classes call for, started unless one
of them is a security class. -/
theorem session_onNodeIncluded (sessions : NodeMap Interview.Session) (nodeId : NodeId) :
    (Interview.onNodeIncluded sessions nodeId ccs).1 nodeId =
      some { Interview.sessionFor ccs with started := !decide (Interview.IsSecure ccs) } := by
  unfold Interview.onNodeIncluded
  by_cases hsecure : Interview.IsSecure ccs
  · rw [if_pos hsecure, decide_eq_true hsecure]
    exact Function.update_self ..
  · rw [if_neg hsecure, decide_eq_false hsecure, Interview.beginInterview]
    dsimp only
    split
    · exact Function.update_self ..
    · exact Function.update_self ..

/-- Endpoints are asked for exactly when Multi Channel is among the classes, on whichever side of
the mark. -/
theorem endpoints_mem_sessionFor :
    .endpoints ∈ (Interview.sessionFor ccs).steps ↔ Interview.multiChannel ∈ ccs := by
  simp [Interview.sessionFor]

/-- Z-Wave Plus information is asked for exactly when its class is among the classes. -/
theorem zwavePlus_mem_sessionFor :
    .zwavePlus ∈ (Interview.sessionFor ccs).steps ↔ Interview.zwavePlusInfo ∈ ccs := by
  simp [Interview.sessionFor]

/-- An interview goes by the queue exactly when Wake Up is among the classes. -/
theorem viaQueue_sessionFor :
    (Interview.sessionFor ccs).viaQueue = true ↔ Interview.wakeUp ∈ ccs := by
  simp [Interview.sessionFor]

/-- The interview's decision tells which classes the list has: those of the steps, the wake-up
class, and whether there is a security class. -/
theorem interview_congr_iff :
    (∀ sessions nodeId, Interview.onNodeIncluded sessions nodeId ccs =
      Interview.onNodeIncluded sessions nodeId ccs') ↔
      (Interview.multiChannel ∈ ccs ↔ Interview.multiChannel ∈ ccs') ∧
      (Interview.zwavePlusInfo ∈ ccs ↔ Interview.zwavePlusInfo ∈ ccs') ∧
      (Interview.wakeUp ∈ ccs ↔ Interview.wakeUp ∈ ccs') ∧
      (Interview.IsSecure ccs ↔ Interview.IsSecure ccs') := by
  constructor
  · intro h
    have hsession := congrArg (fun result => result.1 0) (h (fun _ => none) 0)
    rw [session_onNodeIncluded, session_onNodeIncluded] at hsession
    obtain ⟨hsteps, -, hstarted, hqueue⟩ := Interview.Session.mk.inj (Option.some.inj hsession)
    refine ⟨?_, ?_, ?_, decide_eq_decide.mp (Bool.not_inj hstarted)⟩
    · rw [← endpoints_mem_sessionFor, hsteps, endpoints_mem_sessionFor]
    · rw [← zwavePlus_mem_sessionFor, hsteps, zwavePlus_mem_sessionFor]
    · rw [← viaQueue_sessionFor, hqueue, viaQueue_sessionFor]
  · rintro ⟨hmultiChannel, hzwavePlusInfo, hwakeUp, hsecure⟩ sessions nodeId
    have hsession : Interview.sessionFor ccs = Interview.sessionFor ccs' := by
      simp only [Interview.sessionFor, hmultiChannel, hzwavePlusInfo, hwakeUp]
    simp only [Interview.onNodeIncluded, hsession, hsecure]

/-- The S0 bootstrap treats two lists of classes alike exactly when Security 0 is in both or in
neither. -/
theorem securityZero_congr_iff :
    (∀ networkKey s nodeId, S0.Bootstrap.onNodeIncluded networkKey s nodeId ccs =
      S0.Bootstrap.onNodeIncluded networkKey s nodeId ccs') ↔
      (Interview.security0 ∈ ccs ↔ Interview.security0 ∈ ccs') := by
  -- With a key, the bootstrap sends something if and only if the class is in the list.
  have hstarts : ∀ ccs : Bytes,
      (S0.Bootstrap.onNodeIncluded (some (Vector.replicate 16 0)) {} 0 ccs).2 ≠ [] ↔
        Interview.security0 ∈ ccs := by
    intro ccs
    by_cases hmem : Interview.security0 ∈ ccs
    · have hnot : ¬ S0.Security.commandClass ∉ ccs := not_not_intro hmem
      rw [S0.Bootstrap.onNodeIncluded, if_neg hnot, if_neg (Option.some_ne_none _)]
      simp [hmem]
    · have hnot : S0.Security.commandClass ∉ ccs := hmem
      rw [S0.Bootstrap.onNodeIncluded, if_pos hnot]
      simp [hmem]
  constructor
  · intro h
    rw [← hstarts ccs, ← hstarts ccs', h]
  · intro h networkKey s nodeId
    have hmem : S0.Security.commandClass ∉ ccs ↔ S0.Security.commandClass ∉ ccs' :=
      not_congr h
    simp only [S0.Bootstrap.onNodeIncluded, hmem]

/-- The S2 bootstrap treats two lists of classes alike exactly when Security 2 is in both or in
neither. -/
theorem securityTwo_congr_iff :
    (∀ (s : S2.Bootstrap) nodeId keyPair, s.onNodeIncluded nodeId ccs keyPair =
      s.onNodeIncluded nodeId ccs' keyPair) ↔
      (Interview.security2 ∈ ccs ↔ Interview.security2 ∈ ccs') := by
  have hstarts : ∀ (ccs : Bytes) (keyPair : S2.KeyPair),
      (S2.Bootstrap.onNodeIncluded { keysReady := true } 0 ccs keyPair).2 ≠ [] ↔
        Interview.security2 ∈ ccs := by
    intro ccs keyPair
    by_cases hmem : Interview.security2 ∈ ccs
    · have hnot : ¬ S2.securityTwo ∉ ccs := not_not_intro hmem
      rw [S2.Bootstrap.onNodeIncluded, if_neg hnot, if_neg (by decide)]
      simp [hmem]
    · have hnot : S2.securityTwo ∉ ccs := hmem
      rw [S2.Bootstrap.onNodeIncluded, if_pos hnot]
      simp [hmem]
  constructor
  · intro h
    rw [← hstarts ccs ⟨Vector.replicate 32 0, Vector.replicate 32 0⟩, h, hstarts]
  · intro h s nodeId keyPair
    have hmem : S2.securityTwo ∉ ccs ↔ S2.securityTwo ∉ ccs' := not_congr h
    simp only [S2.Bootstrap.onNodeIncluded, hmem]

/-- The thermostat's look at what a node supports treats two lists alike exactly when the class is
in both or in neither. -/
theorem thermostat_congr_iff (cls : UInt8) :
    (∀ (pre post : List NodeInfo) (info : NodeInfo) nodeId,
      Thermostat.supportsCc (pre ++ { info with commandClasses := ccs } :: post) nodeId cls =
        Thermostat.supportsCc (pre ++ { info with commandClasses := ccs' } :: post) nodeId cls) ↔
      (cls ∈ ccs ↔ cls ∈ ccs') := by
  constructor
  · intro h
    have hentry := h [] [] {} 0
    simp only [Thermostat.supportsCc, List.nil_append, if_true] at hentry
    rw [← List.contains_iff_mem, ← List.contains_iff_mem, hentry]
  · intro h pre post info nodeId
    have hcontains : ccs.contains cls = ccs'.contains cls := by
      rw [Bool.eq_iff_iff, List.contains_iff_mem, List.contains_iff_mem]
      exact h
    induction pre with
    | nil => simp only [List.nil_append, Thermostat.supportsCc, hcontains]
    | cons first pre ih => simp only [List.cons_append, Thermostat.supportsCc, ih]

end Searches

/-- The five readers agree on a list if and only if each class that is searched for in the whole
list and occurs in it occurs before the mark. -/
theorem agrees_iff (commandClasses : Bytes) : Agrees commandClasses ↔
    ∀ cls ∈ searchedClasses, cls ∈ commandClasses → cls ∈ supportedHalf commandClasses := by
  have hiff : ∀ cls, (cls ∈ commandClasses → cls ∈ supportedHalf commandClasses) ↔
      (cls ∈ commandClasses ↔ cls ∈ supportedHalf commandClasses) := fun cls =>
    ⟨fun h => ⟨h, mem_of_mem_supportedHalf⟩, fun h => h.mp⟩
  simp only [hiff, searchedClasses, List.forall_mem_cons]
  constructor
  · intro h
    obtain ⟨hmultiChannel, hzwavePlusInfo, hwakeUp, -⟩ := interview_congr_iff.mp h.interview
    exact ⟨hmultiChannel, hzwavePlusInfo, hwakeUp, securityZero_congr_iff.mp h.securityZero,
      securityTwo_congr_iff.mp h.securityTwo,
      (thermostat_congr_iff _).mp (h.thermostat _ List.mem_cons_self),
      (thermostat_congr_iff _).mp (h.thermostat _ (List.mem_cons_of_mem _ List.mem_cons_self)),
      List.forall_mem_nil _⟩
  · rintro ⟨hmultiChannel, hzwavePlusInfo, hwakeUp, hsecurity0, hsecurity2, hmode, hsetpoint, -⟩
    refine ⟨(scanFrom_supportedHalf {} commandClasses).symm,
      interview_congr_iff.mpr ⟨hmultiChannel, hzwavePlusInfo, hwakeUp, or_congr hsecurity0 hsecurity2⟩,
      securityZero_congr_iff.mpr hsecurity0, securityTwo_congr_iff.mpr hsecurity2, ?_⟩
    rw [List.forall_mem_cons, List.forall_mem_singleton]
    exact ⟨(thermostat_congr_iff _).mpr hmode, (thermostat_congr_iff _).mpr hsetpoint⟩

/-- A remote control that emits Security 2 and does not answer it. -/
theorem not_agrees_remote : ¬ Agrees [ccAssociation, ccMark, Interview.security2] := by
  intro h
  have hsecurity2 := securityTwo_congr_iff.mp h.securityTwo
  exact absurd (hsecurity2.mp (by decide)) (by decide)

end Zwaved.Inclusion
