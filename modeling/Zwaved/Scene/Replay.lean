import Zwaved.Scene.Actions
import Zwaved.Storage.Registry

/-!
# Scenes and presses

`SceneStore.cpp` keeps the scenes of a network in the table `scenes` and, in `scene_triggers`, which
press runs which scene. `SceneOrchestrator.cpp` looks up the scene of a press and sends what its
actions say. A scene that is written is replayed as it was given, whatever is done to other scenes
and to triggers afterwards, exactly if no payload is longer than its length byte can say
(`replays_iff`). A statement that reads succeeds; what becomes of one that writes comes with the
call.
-/

namespace Zwaved.SceneStore

/-- What the database makes of a text that is bound: a C string. -/
def bindText (text : String) : String :=
  String.ofList (text.toList.takeWhile fun c => c ≠ Char.ofNat 0)

/-- The key of a trigger within its network. -/
structure TriggerKey where
  /-- `source`. -/
  source : UInt8
  /-- `sourceNodeId`. -/
  sourceNodeId : NodeId
  /-- `sceneNumber`. -/
  sceneNumber : UInt8
  /-- `keyAttribute`. -/
  keyAttribute : UInt8
  deriving DecidableEq, Repr

/-- `SOURCE_CENTRAL_SCENE`. -/
def sourceCentralScene : UInt8 := 0

/-- `SOURCE_BASIC_SET`. -/
def sourceBasicSet : UInt8 := 1

/-- `SOURCE_SCENE_ACTIVATION`. -/
def sourceSceneActivation : UInt8 := 2

/-- `SceneStore::Store`: the two tables by their keys, and the connection to them. -/
structure Store where
  /-- `scenes`: the blob of a home and a scene. -/
  scenes : String × String → Option Bytes := fun _ => none
  /-- `scene_triggers`: the scene of a home and a trigger. -/
  triggers : String × TriggerKey → Option String := fun _ => none
  /-- `db.valid()`. -/
  dbValid : Bool := true
  /-- `currentHomeId`. -/
  currentHomeId : Option String := none

namespace Store

/-- The home that the calls scope to, while there is a database. -/
def home (store : Store) : Option String := if store.dbValid then store.currentHomeId else none

/-- `setHomeId`. -/
def setHomeId (store : Store) (homeIdBytes : Bytes) : Store :=
  { store with currentHomeId := some (Storage.formatHomeId homeIdBytes) }

/-- `setScene`, with whether the row is written: the UPSERT may be `done` or fail. -/
def setScene (store : Store) (sceneId : String) (actions : List Action) (done : Bool) :
    Store × Bool :=
  if actions.length > maxBlobItems then (store, false)
  else
    match store.home with
    | none => (store, false)
    | some home =>
      if done then
        ({ store with
            scenes := Function.update store.scenes (home, bindText sceneId)
              (some (encodeActions actions)) }, true)
      else (store, false)

/-- `getScene`. -/
def getScene (store : Store) (sceneId : String) : Read (Option (List Action)) :=
  match store.home with
  | none => .ok none
  | some home =>
    match store.scenes (home, bindText sceneId) with
    | none => .ok none
    | some blob => decodeActions blob

/-- `deleteScene`. -/
def deleteScene (store : Store) (sceneId : String) (done : Bool) : Store :=
  match store.home with
  | none => store
  | some home =>
    if done then
      { store with scenes := Function.update store.scenes (home, bindText sceneId) none }
    else store

/-- `bindTrigger`. -/
def bindTrigger (store : Store) (key : TriggerKey) (sceneId : String) (done : Bool) : Store :=
  match store.home with
  | none => store
  | some home =>
    if done then
      { store with triggers := Function.update store.triggers (home, key) (some (bindText sceneId)) }
    else store

/-- `unbindTrigger`. -/
def unbindTrigger (store : Store) (key : TriggerKey) (done : Bool) : Store :=
  match store.home with
  | none => store
  | some home =>
    if done then { store with triggers := Function.update store.triggers (home, key) none }
    else store

/-- `resolveTrigger`. -/
def resolveTrigger (store : Store) (key : TriggerKey) : Option String :=
  match store.home with
  | none => none
  | some home => store.triggers (home, key)

end Store

/-! ## Presses -/

/-- A press that the orchestrator hears of. -/
inductive Press
  /-- CentralSceneNotification. -/
  | centralScene (sourceNodeId : NodeId) (sceneNumber keyAttribute : UInt8)
  /-- BasicSetReceived. -/
  | basicSet (sourceNodeId : NodeId) (value : UInt8)
  /-- SceneActivationSet. -/
  | sceneActivation (sourceNodeId : NodeId) (sceneId : UInt8)
  deriving DecidableEq, Repr

/-- What the orchestrator publishes. -/
inductive Event
  /-- SendDataCommand. -/
  | sendDataCommand (nodeId : NodeId) (payload : Bytes) (callbackId : UInt8)
  /-- SceneActivated. -/
  | sceneActivated (sourceNodeId : NodeId) (sceneNumber keyAttribute : UInt8) (sceneId : String)
      (actionCount : UInt32)
  deriving DecidableEq, Repr

/-- `NO_CALLBACK`. -/
def noCallback : UInt8 := 0

/-- What is published for an action. -/
def Action.command (action : Action) : Event :=
  .sendDataCommand action.targetNodeId action.ccPayload noCallback

/-- `runScene`. -/
def runScene (store : Store) (key : TriggerKey) : Read (List Event) :=
  match store.resolveTrigger key with
  | none => return []
  | some sceneId => do
    let commands :=
      match ← store.getScene sceneId with
      | some actions => actions.map Action.command
      | none => []
    return commands ++ [.sceneActivated key.sourceNodeId key.sceneNumber key.keyAttribute sceneId
      commands.length.toUInt32]

/-- The trigger that `onCentralScene`, `onBasicSet` and `onSceneActivation` look up. -/
def Press.key : Press → TriggerKey
  | centralScene sourceNodeId sceneNumber keyAttribute =>
    { source := sourceCentralScene, sourceNodeId, sceneNumber, keyAttribute }
  | basicSet sourceNodeId value =>
    { source := sourceBasicSet, sourceNodeId, sceneNumber := value, keyAttribute := 0 }
  | sceneActivation sourceNodeId sceneId =>
    { source := sourceSceneActivation, sourceNodeId, sceneNumber := sceneId, keyAttribute := 0 }

/-- `onCentralScene`, `onBasicSet` and `onSceneActivation`. -/
def onPress (store : Store) (press : Press) : Read (List Event) := runScene store press.key

/-! ## Runs -/

/-- What may happen to the store. -/
inductive Op
  /-- The daemon binds a network. -/
  | setHomeId (homeIdBytes : Bytes)
  /-- A scene is written. -/
  | setScene (sceneId : String) (actions : List Action) (done : Bool)
  /-- A scene is deleted. -/
  | deleteScene (sceneId : String) (done : Bool)
  /-- A trigger is bound. -/
  | bindTrigger (key : TriggerKey) (sceneId : String) (done : Bool)
  /-- A trigger is unbound. -/
  | unbindTrigger (key : TriggerKey) (done : Bool)
  /-- The daemon is stopped and started again, over the same file. -/
  | reopen (dbValid : Bool)

/-- One operation. -/
def step (store : Store) : Op → Store
  | .setHomeId homeIdBytes => store.setHomeId homeIdBytes
  | .setScene sceneId actions done => (store.setScene sceneId actions done).1
  | .deleteScene sceneId done => store.deleteScene sceneId done
  | .bindTrigger key sceneId done => store.bindTrigger key sceneId done
  | .unbindTrigger key done => store.unbindTrigger key done
  | .reopen dbValid => { store with dbValid, currentHomeId := none }

/-- One operation after another. -/
def run (store : Store) (ops : List Op) : Store := ops.foldl step store

/-- The operation writes or deletes the scene. -/
def Op.Writes (sceneId : String) : Op → Prop
  | .setScene other _ _ => bindText other = bindText sceneId
  | .deleteScene other _ => bindText other = bindText sceneId
  | _ => False

/-- The scene is read as the actions, and every press that is bound to it sends just these. -/
structure Replayed (store : Store) (sceneId : String) (actions : List Action) : Prop where
  /-- What `getScene` returns. -/
  read : store.getScene sceneId = .ok (some actions)
  /-- What is published for a press. -/
  pressed : ∀ press bound, store.resolveTrigger press.key = some bound →
    bindText bound = bindText sceneId →
      onPress store press = .ok (actions.map Action.command ++
        [.sceneActivated press.key.sourceNodeId press.key.sceneNumber press.key.keyAttribute bound
          actions.length.toUInt32])

/-- The list is refused and nothing is changed, or the scene is replayed as it was given, until it
is written again or deleted and while its network is bound. -/
def Replays (store : Store) (sceneId : String) (actions : List Action) (done : Bool) : Prop :=
  store.setScene sceneId actions done = (store, false) ∨
    (store.setScene sceneId actions done).2 = true ∧
      ∀ ops, (∀ op ∈ ops, ¬ op.Writes sceneId) →
        (run (store.setScene sceneId actions done).1 ops).home = store.home →
          Replayed (run (store.setScene sceneId actions done).1 ops) sceneId actions

variable {store : Store} {sceneId : String} {actions : List Action} {done : Bool} {home : String}

/-- The list is refused if it is too long, without a home, and if the statement fails. -/
theorem setScene_eq_self (h : maxBlobItems < actions.length ∨ store.home = none ∨ done = false) :
    store.setScene sceneId actions done = (store, false) := by
  unfold Store.setScene
  split
  · rfl
  · next hlength =>
    split
    · rfl
    · next home hhome =>
      rcases h with hlong | hnone | rfl
      · exact absurd hlong hlength
      · exact absurd (hhome.symm.trans hnone) (by simp)
      · rfl

/-- With few enough actions and a home, `setScene` writes their blob into the scene's row. -/
theorem setScene_eq (sceneId : String) (hlength : actions.length ≤ maxBlobItems)
    (hhome : store.home = some home) :
    store.setScene sceneId actions true =
      ({ store with
          scenes := Function.update store.scenes (home, bindText sceneId)
            (some (encodeActions actions)) }, true) := by
  unfold Store.setScene
  rw [if_neg (Nat.not_lt.mpr hlength), hhome]
  rfl

/-- No other operation changes what is stored of a scene. -/
theorem scenes_step {op : Op} (h : ¬ op.Writes sceneId) (home : String) :
    (step store op).scenes (home, bindText sceneId) = store.scenes (home, bindText sceneId) := by
  -- A row of another scene has another key.
  have hother {current other : String} (hne : bindText other ≠ bindText sceneId)
      (blob : Option Bytes) :
      Function.update store.scenes (current, bindText other) blob (home, bindText sceneId) =
        store.scenes (home, bindText sceneId) :=
    Function.update_of_ne (fun heq => hne (Prod.mk.inj heq).2.symm) ..
  cases op with
  | setHomeId homeIdBytes => rfl
  | setScene other actions done =>
    change (store.setScene other actions done).1.scenes _ = _
    unfold Store.setScene
    split
    · rfl
    split
    · rfl
    split
    · exact hother h _
    · rfl
  | deleteScene other done =>
    change (store.deleteScene other done).scenes _ = _
    unfold Store.deleteScene
    split
    · rfl
    split
    · exact hother h _
    · rfl
  | bindTrigger key other done =>
    change (store.bindTrigger key other done).scenes _ = _
    unfold Store.bindTrigger
    split
    · rfl
    split <;> rfl
  | unbindTrigger key done =>
    change (store.unbindTrigger key done).scenes _ = _
    unfold Store.unbindTrigger
    split
    · rfl
    split <;> rfl
  | reopen dbValid => rfl

/-- Operations that do not write a scene leave it, under every home. -/
theorem scenes_run (store : Store) {ops : List Op} (h : ∀ op ∈ ops, ¬ op.Writes sceneId)
    (home : String) :
    (run store ops).scenes (home, bindText sceneId) = store.scenes (home, bindText sceneId) := by
  induction ops generalizing store with
  | nil => rfl
  | cons op ops ih =>
    have hrest := ih (step store op) fun op hop => h op (List.mem_cons_of_mem _ hop)
    exact hrest.trans (scenes_step (h op List.mem_cons_self) home)

/-- A scene is read by the text that its name is bound as. -/
theorem getScene_congr {other : String} (h : bindText other = bindText sceneId) :
    store.getScene other = store.getScene sceneId := by
  rw [Store.getScene, Store.getScene, h]

/-- A scene that `getScene` returns is replayed by every press that is bound to it, as it is
returned. -/
theorem replayed_of_getScene (h : store.getScene sceneId = .ok (some actions)) :
    Replayed store sceneId actions := by
  refine ⟨h, fun press bound hbound htext => ?_⟩
  unfold onPress runScene
  rw [hbound]
  dsimp only
  rw [getScene_congr htext, h]
  simp only [Read.ok_bind, Read.pure_eq_ok, List.length_map]

/-- A scene is refused or replayed as it was given exactly if there is no home to store it for, it
has more actions than a byte can count, the statement fails, or no payload is longer than a byte can
say. -/
theorem replays_iff (store : Store) (sceneId : String) (actions : List Action) (done : Bool) :
    Replays store sceneId actions done ↔
      maxBlobItems < actions.length ∨ store.home = none ∨ done = false ∨
        ∀ action ∈ actions, action.ccPayload.length ≤ maxBlobItems := by
  by_cases hrefused : maxBlobItems < actions.length ∨ store.home = none ∨ done = false
  -- A scene that is refused leaves the store as it was.
  · refine iff_of_true (Or.inl (setScene_eq_self hrefused)) ?_
    tauto
  obtain ⟨hlong, hrest⟩ := not_or.mp hrefused
  obtain ⟨hhome, hdone⟩ := not_or.mp hrest
  have hlength : actions.length ≤ maxBlobItems := Nat.not_lt.mp hlong
  obtain ⟨home, hhome⟩ := Option.ne_none_iff_exists'.mp hhome
  obtain rfl : done = true := by simpa using hdone
  have hset := setScene_eq sceneId hlength hhome
  -- Until it is written again, the scene is read as the blob that was stored.
  have hget {ops : List Op} (hops : ∀ op ∈ ops, ¬ op.Writes sceneId)
      (hend : (run (store.setScene sceneId actions true).1 ops).home = some home) :
      (run (store.setScene sceneId actions true).1 ops).getScene sceneId =
        decodeActions (encodeActions actions) := by
    unfold Store.getScene
    rw [hend]
    dsimp only
    rw [scenes_run _ hops, hset]
    dsimp only
    rw [Function.update_self]
  constructor
  -- A scene that was stored is not one that was refused.
  · rintro (hself | ⟨-, hreplayed⟩)
    · exact absurd (congrArg Prod.snd (hset.symm.trans hself)) (by simp)
    · -- What is read at once tells whether all the payloads were short.
      have hnow : (run (store.setScene sceneId actions true).1 []).home = some home := by
        rw [hset]
        exact hhome
      have hread := (hreplayed [] (by simp) (hnow.trans hhome.symm)).read
      rw [hget (by simp) hnow] at hread
      exact Or.inr (Or.inr (Or.inr ((decodeActions_encodeActions_iff hlength).mp hread)))
  · intro hshort
    -- None of the refusals applies, so the payloads are short and the blob reads back.
    have hpayloads : ∀ action ∈ actions, action.ccPayload.length ≤ maxBlobItems := by
      rcases hshort with hshort | hnone | hfalse | hpayloads
      · exact absurd hshort hlong
      · exact absurd (hhome.symm.trans hnone) (by simp)
      · cases hfalse
      · exact hpayloads
    refine Or.inr ⟨by rw [hset], fun ops hops hend => replayed_of_getScene ?_⟩
    rw [hget hops (hend.trans hhome)]
    exact (decodeActions_encodeActions_iff hlength).mpr hpayloads

set_option maxRecDepth 4000 in
/-- A payload of 256 bytes for node 5 is stored with the length zero. The press sends node 5 nothing
and takes the next action from the payload: a byte for node 9. -/
theorem replays_longPayload : ¬ Replays { currentHomeId := some "C0FFEE00" } "evening"
    [{ targetNodeId := 5, ccPayload := 9 :: 1 :: 0xFF :: List.replicate 253 0 },
      { targetNodeId := 6, ccPayload := [0x20, 0x01, 0xFF] }] true := by
  rintro (hself | ⟨-, hreplayed⟩)
  · exact absurd (congrArg Prod.snd hself) (by decide)
  · have hread := (hreplayed [] (by simp) rfl).read
    have hstored : (.ok (some [{ targetNodeId := 5, ccPayload := [] },
      { targetNodeId := 9, ccPayload := [0xFF] }]) : Read (Option (List Action))) = .ok (some _) :=
      hread
    exact absurd hstored (by simp)

end Zwaved.SceneStore
