import Mathlib.Data.List.Induction
import Zwaved.NodeRegistry

/-!
# The node registry and its database

`NodeRegistry.cpp` keeps every node twice: as an entry in memory and as a row of the table `nodes`,
under the home id of the network. Memory is loaded from the rows when a home is bound, and from then
on every operation writes both. They should stay equal, so that a restart changes nothing.

Most operations write the same fields on both sides (`InSync.setColumns`). `add` does not: memory
takes the whole entry, but `UPSERT_SQL` writes four columns and leaves the others of a row that is
there already. `inSync_iff` says that this is the only way the two come apart.

A row here has the types that the registry writes. Statements succeed, as in a database that is
valid.
-/

namespace Zwaved.Storage

/-- `NodeRegistry::NodeInfo`. -/
structure NodeInfo where
  /-- `nodeId`. -/
  nodeId : NodeId := 0
  /-- `basicType`. -/
  basicType : UInt8 := 0
  /-- `genericType`. -/
  genericType : UInt8 := 0
  /-- `specificType`. -/
  specificType : UInt8 := 0
  /-- `commandClasses`. -/
  commandClasses : Bytes := []
  /-- `securityScheme`. -/
  securityScheme : SecurityScheme := .none
  /-- `manufacturerId`. -/
  manufacturerId : UInt16 := 0
  /-- `productTypeId`. -/
  productTypeId : UInt16 := 0
  /-- `productId`. -/
  productId : UInt16 := 0
  /-- `libraryType`. -/
  libraryType : UInt8 := 0
  /-- `protocolVersion`. -/
  protocolVersion : UInt8 := 0
  /-- `protocolSubVersion`. -/
  protocolSubVersion : UInt8 := 0
  /-- `applicationVersion`. -/
  applicationVersion : UInt8 := 0
  /-- `applicationSubVersion`. -/
  applicationSubVersion : UInt8 := 0
  /-- `endpointCount`. -/
  endpointCount : UInt8 := 0
  /-- `endpointsDynamic`. -/
  endpointsDynamic : Bool := false
  /-- `endpointsIdentical`. -/
  endpointsIdentical : Bool := false
  /-- `zwavePlusVersion`. -/
  zwavePlusVersion : UInt8 := 0
  /-- `roleType`. -/
  roleType : UInt8 := 0
  /-- `nodeType`. -/
  nodeType : UInt8 := 0
  /-- `installerIconType`. -/
  installerIconType : UInt16 := 0
  /-- `userIconType`. -/
  userIconType : UInt16 := 0
  deriving DecidableEq, Repr

/-- A row of `nodes`, without its key. -/
structure NodeRow where
  /-- `basic_type`. -/
  basicType : UInt8
  /-- `generic_type`. -/
  genericType : UInt8
  /-- `specific_type`. -/
  specificType : UInt8
  /-- `command_classes`. -/
  commandClasses : Bytes
  /-- `security_scheme`. -/
  securityScheme : SecurityScheme := .none
  /-- `manufacturer_id`. -/
  manufacturerId : UInt16 := 0
  /-- `product_type_id`. -/
  productTypeId : UInt16 := 0
  /-- `product_id`. -/
  productId : UInt16 := 0
  /-- `library_type`. -/
  libraryType : UInt8 := 0
  /-- `protocol_version`. -/
  protocolVersion : UInt8 := 0
  /-- `protocol_sub_version`. -/
  protocolSubVersion : UInt8 := 0
  /-- `application_version`. -/
  applicationVersion : UInt8 := 0
  /-- `application_sub_version`. -/
  applicationSubVersion : UInt8 := 0
  /-- `endpoint_count`. -/
  endpointCount : UInt8 := 0
  /-- `endpoints_dynamic`. -/
  endpointsDynamic : Bool := false
  /-- `endpoints_identical`. -/
  endpointsIdentical : Bool := false
  /-- `zwaveplus_version`. -/
  zwavePlusVersion : UInt8 := 0
  /-- `role_type`. -/
  roleType : UInt8 := 0
  /-- `node_type`. -/
  nodeType : UInt8 := 0
  /-- `installer_icon_type`. -/
  installerIconType : UInt16 := 0
  /-- `user_icon_type`. -/
  userIconType : UInt16 := 0
  deriving DecidableEq, Repr

/-- The table `nodes`, by its primary key. -/
abbrev NodesTable := String → NodeMap NodeRow

/-- What `loadNodesForHome` makes of a row. -/
def NodeRow.info (nodeId : NodeId) (row : NodeRow) : NodeInfo where
  nodeId := nodeId
  basicType := row.basicType
  genericType := row.genericType
  specificType := row.specificType
  commandClasses := row.commandClasses
  securityScheme := row.securityScheme
  manufacturerId := row.manufacturerId
  productTypeId := row.productTypeId
  productId := row.productId
  libraryType := row.libraryType
  protocolVersion := row.protocolVersion
  protocolSubVersion := row.protocolSubVersion
  applicationVersion := row.applicationVersion
  applicationSubVersion := row.applicationSubVersion
  endpointCount := row.endpointCount
  endpointsDynamic := row.endpointsDynamic
  endpointsIdentical := row.endpointsIdentical
  zwavePlusVersion := row.zwavePlusVersion
  roleType := row.roleType
  nodeType := row.nodeType
  installerIconType := row.installerIconType
  userIconType := row.userIconType

/-- `loadNodesForHome`. -/
def loadNodesForHome (db : NodesTable) (homeId : String) : NodeMap NodeInfo :=
  fun nodeId => (db homeId nodeId).map (NodeRow.info nodeId)

namespace NodesTable

/-- The row of a key replaced. -/
def updateRow (db : NodesTable) (homeId : String) (nodeId : NodeId)
    (f : Option NodeRow → Option NodeRow) : NodesTable :=
  Function.update db homeId (Function.update (db homeId) nodeId (f (db homeId nodeId)))

/-- `UPSERT_SQL`: a row that is there keeps the columns that are not named, and a new one gets the
defaults of the schema. -/
def upsert (info : NodeInfo) : Option NodeRow → Option NodeRow
  | none => some {
      basicType := info.basicType
      genericType := info.genericType
      specificType := info.specificType
      commandClasses := info.commandClasses }
  | some row => some { row with
      basicType := info.basicType
      genericType := info.genericType
      specificType := info.specificType
      commandClasses := info.commandClasses }

/-- `persistAdd`. -/
def persistAdd (db : NodesTable) (homeId : String) (info : NodeInfo) : NodesTable :=
  db.updateRow homeId info.nodeId (upsert info)

/-- `persistRemove`. -/
def persistRemove (db : NodesTable) (homeId : String) (nodeId : NodeId) : NodesTable :=
  db.updateRow homeId nodeId fun _ => none

/-- Loading a home after one of its rows was replaced gives the nodes with that one replaced. -/
theorem load_updateRow (db : NodesTable) (homeId : String) (nodeId : NodeId)
    (f : Option NodeRow → Option NodeRow) :
    loadNodesForHome (db.updateRow homeId nodeId f) homeId =
      Function.update (loadNodesForHome db homeId) nodeId
        ((f (db homeId nodeId)).map (NodeRow.info nodeId)) := by
  funext other
  unfold loadNodesForHome updateRow
  rw [Function.update_self]
  by_cases h : other = nodeId
  · subst h
    rw [Function.update_self, Function.update_self]
  · rw [Function.update_of_ne h, Function.update_of_ne h]

end NodesTable

/-- One hexadecimal digit, in upper case. -/
def hexDigit (n : ℕ) : Char :=
  Char.ofNat (if n < 10 then '0'.toNat + n else 'A'.toNat + (n - 10))

/-- `formatHomeId`. -/
def formatHomeId (bytes : Bytes) : String :=
  String.ofList (bytes.flatMap fun byte => [hexDigit (byte.toNat / 16), hexDigit (byte.toNat % 16)])

/-- The state of the registry, and the table. -/
structure Registry where
  /-- `nodes`. -/
  nodes : NodeMap NodeInfo := fun _ => none
  /-- `currentHomeId`. -/
  currentHomeId : Option String := none
  /-- The table `nodes` of the database. -/
  db : NodesTable

namespace Registry

/-- `setHomeId`. -/
def setHomeId (r : Registry) (homeIdBytes : Bytes) : Registry :=
  let homeIdStr := formatHomeId homeIdBytes
  if r.currentHomeId = some homeIdStr then r
  else { r with currentHomeId := some homeIdStr, nodes := loadNodesForHome r.db homeIdStr }

/-- `withBoundHome`. -/
def withBoundHome (r : Registry) (mutator : String → Registry) : Registry :=
  match r.currentHomeId with
  | none => r
  | some home => mutator home

/-- `add`. -/
def add (r : Registry) (info : NodeInfo) : Registry :=
  r.withBoundHome fun home =>
    { r with
      nodes := Function.update r.nodes info.nodeId (some info)
      db := r.db.persistAdd home info }

/-- `remove`. -/
def remove (r : Registry) (nodeId : NodeId) : Registry :=
  r.withBoundHome fun home =>
    { r with
      nodes := Function.update r.nodes nodeId none
      db := r.db.persistRemove home nodeId }

/-- `seed`. -/
def seed (r : Registry) (nodeId : NodeId) : Registry :=
  r.withBoundHome fun home =>
    if (r.nodes nodeId).isSome then r
    else
      { r with
        nodes := Function.update r.nodes nodeId (some { nodeId })
        db := r.db.persistAdd home { nodeId } }

/-- The entry of a node that is known, changed in memory and persisted as by `add`. -/
def updateEntry (r : Registry) (nodeId : NodeId) (f : NodeInfo → NodeInfo) : Registry :=
  r.withBoundHome fun home =>
    match r.nodes nodeId with
    | none => r
    | some info =>
      { r with
        nodes := Function.update r.nodes nodeId (some (f info))
        db := r.db.persistAdd home (f info) }

/-- `updateCommandClasses`. -/
def updateCommandClasses (r : Registry) (nodeId : NodeId) (commandClasses : Bytes) : Registry :=
  r.updateEntry nodeId fun info => { info with commandClasses }

/-- `updateDeviceClass`. -/
def updateDeviceClass (r : Registry) (nodeId : NodeId)
    (basicType genericType specificType : UInt8) : Registry :=
  r.updateEntry nodeId fun info => { info with basicType, genericType, specificType }

/-- Fields of a node that is known set in memory, and the columns of its row by an `UPDATE`. The
entry is changed also when no home is bound. -/
def setColumns (r : Registry) (nodeId : NodeId) (f : NodeInfo → NodeInfo)
    (columns : NodeRow → NodeRow) : Registry :=
  match r.nodes nodeId with
  | none => r
  | some info =>
    let r := { r with nodes := Function.update r.nodes nodeId (some (f info)) }
    r.withBoundHome fun home => { r with db := r.db.updateRow home nodeId (Option.map columns) }

/-- `setSecurityScheme`. -/
def setSecurityScheme (r : Registry) (nodeId : NodeId) (scheme : SecurityScheme) : Registry :=
  r.setColumns nodeId (fun info => { info with securityScheme := scheme })
    fun row => { row with securityScheme := scheme }

/-- `setDeviceIdentity`. -/
def setDeviceIdentity (r : Registry) (nodeId : NodeId)
    (manufacturerId productTypeId productId : UInt16) : Registry :=
  r.setColumns nodeId (fun info => { info with manufacturerId, productTypeId, productId })
    fun row => { row with manufacturerId, productTypeId, productId }

/-- `setVersionInfo`. -/
def setVersionInfo (r : Registry) (nodeId : NodeId)
    (libraryType protocolVersion protocolSubVersion applicationVersion applicationSubVersion :
      UInt8) : Registry :=
  r.setColumns nodeId
    (fun info => { info with
      libraryType, protocolVersion, protocolSubVersion, applicationVersion,
      applicationSubVersion })
    fun row => { row with
      libraryType, protocolVersion, protocolSubVersion, applicationVersion,
      applicationSubVersion }

/-- `setEndpointInfo`. -/
def setEndpointInfo (r : Registry) (nodeId : NodeId) (endpointCount : UInt8)
    (endpointsDynamic endpointsIdentical : Bool) : Registry :=
  r.setColumns nodeId
    (fun info => { info with endpointCount, endpointsDynamic, endpointsIdentical })
    fun row => { row with endpointCount, endpointsDynamic, endpointsIdentical }

/-- `setZWavePlusInfo`. -/
def setZWavePlusInfo (r : Registry) (nodeId : NodeId) (zwavePlusVersion roleType nodeType : UInt8)
    (installerIconType userIconType : UInt16) : Registry :=
  r.setColumns nodeId
    (fun info => { info with
      zwavePlusVersion, roleType, nodeType, installerIconType, userIconType })
    fun row => { row with
      zwavePlusVersion, roleType, nodeType, installerIconType, userIconType }

/-! ## Memory and database -/

/-- Once a home is bound, memory is what the database would be loaded as. -/
def InSync (r : Registry) : Prop :=
  ∀ home, r.currentHomeId = some home → r.nodes = loadNodesForHome r.db home

/-- A start of the daemon, on the database that the last one left. -/
def restart (r : Registry) : Registry := { db := r.db }

/-- In sync, a restart changes no node. -/
theorem InSync.restart {r : Registry} (h : r.InSync) {homeIdBytes : Bytes}
    (hbound : r.currentHomeId = some (formatHomeId homeIdBytes)) :
    (r.restart.setHomeId homeIdBytes).nodes = r.nodes :=
  (h _ hbound).symm

/-- What `UPSERT_SQL` makes of an entry. -/
def upserted (old : Option NodeInfo) (info : NodeInfo) : NodeInfo :=
  { old.getD { nodeId := info.nodeId } with
    basicType := info.basicType
    genericType := info.genericType
    specificType := info.specificType
    commandClasses := info.commandClasses }

/-- The fields that `UPSERT_SQL` does not write. -/
def unwritten (info : NodeInfo) : NodeInfo :=
  { info with nodeId := 0, basicType := 0, genericType := 0, specificType := 0, commandClasses := [] }

/-- An upserted row reads back as the entry in memory after the same upsert: what the statement
keeps of an old row is what the entry keeps. -/
theorem map_upsert (info : NodeInfo) (old : Option NodeRow) :
    (NodesTable.upsert info old).map (NodeRow.info info.nodeId) =
      some (upserted (old.map (NodeRow.info info.nodeId)) info) := by
  cases old <;> rfl

/-- The row is left as the entry exactly if the entry has, in the fields that are not written, what
was there. -/
theorem upserted_eq_iff (info : NodeInfo) {old : Option NodeInfo}
    (hold : ∀ o ∈ old, o.nodeId = info.nodeId) :
    upserted old info = info ↔ unwritten info = unwritten (old.getD {}) := by
  have hunwritten : unwritten (upserted old info) = unwritten (old.getD {}) := by
    cases old <;> rfl
  constructor
  · intro h
    rw [h] at hunwritten
    exact hunwritten
  · intro h
    -- An entry is its unwritten fields and the five others, which are the same.
    have hnode : (upserted old info).nodeId = info.nodeId := by
      cases old with
      | none => rfl
      | some o => exact hold o rfl
    calc upserted old info
        = { unwritten (upserted old info) with
            nodeId := (upserted old info).nodeId
            basicType := info.basicType
            genericType := info.genericType
            specificType := info.specificType
            commandClasses := info.commandClasses } := rfl
      _ = { unwritten info with
            nodeId := info.nodeId
            basicType := info.basicType
            genericType := info.genericType
            specificType := info.specificType
            commandClasses := info.commandClasses } := by rw [hunwritten, ← h, hnode]
      _ = info := rfl

section Bound

variable {r : Registry} {home : String}

/-- An entry that was loaded has the id that it was loaded under. -/
theorem InSync.nodeId_eq (h : r.InSync) (hbound : r.currentHomeId = some home) {nodeId : NodeId}
    {info : NodeInfo} (hinfo : r.nodes nodeId = some info) : info.nodeId = nodeId := by
  rw [h home hbound] at hinfo
  obtain ⟨row, -, rfl⟩ := Option.map_eq_some_iff.mp hinfo
  rfl

/-- An entry put into memory and persisted stays in sync exactly if the row is left as the entry. -/
theorem InSync.persist_iff (h : r.InSync) (hbound : r.currentHomeId = some home) (info : NodeInfo) :
    ({ r with
      nodes := Function.update r.nodes info.nodeId (some info)
      db := r.db.persistAdd home info } : Registry).InSync ↔
      upserted (r.nodes info.nodeId) info = info := by
  have hload : loadNodesForHome (r.db.persistAdd home info) home =
      Function.update r.nodes info.nodeId (some (upserted (r.nodes info.nodeId) info)) := by
    rw [NodesTable.persistAdd, NodesTable.load_updateRow, map_upsert, h home hbound]
    rfl
  constructor
  · intro hsync
    have hnodes : Function.update r.nodes info.nodeId (some info) =
        Function.update r.nodes info.nodeId (some (upserted (r.nodes info.nodeId) info)) :=
      (hsync home hbound).trans hload
    have hentry := congrFun hnodes info.nodeId
    rw [Function.update_self, Function.update_self] at hentry
    exact (Option.some.inj hentry).symm
  · intro heq home' hbound'
    obtain rfl : home = home' := Option.some.inj (hbound.symm.trans hbound')
    rw [hload, heq]

/-- With a home bound, the mutation is performed under it. -/
theorem withBoundHome_eq (hbound : r.currentHomeId = some home) (mutator : String → Registry) :
    r.withBoundHome mutator = mutator home := by
  unfold withBoundHome
  rw [hbound]

/-- With no home bound, nothing is mutated. -/
theorem withBoundHome_none (hbound : r.currentHomeId = none) (mutator : String → Registry) :
    r.withBoundHome mutator = r := by
  unfold withBoundHome
  rw [hbound]

/-- An entry is changed only with a home bound and for a node that is known. -/
theorem updateEntry_cases (r : Registry) (nodeId : NodeId) (f : NodeInfo → NodeInfo) :
    r.updateEntry nodeId f = r ∨
      ∃ home info, r.currentHomeId = some home ∧ r.nodes nodeId = some info ∧
        r.updateEntry nodeId f =
          { r with
            nodes := Function.update r.nodes nodeId (some (f info))
            db := r.db.persistAdd home (f info) } := by
  unfold Registry.updateEntry
  rcases Option.eq_none_or_eq_some r.currentHomeId with hbound | ⟨home, hbound⟩
  · exact .inl (withBoundHome_none hbound _)
  rw [withBoundHome_eq hbound]
  rcases Option.eq_none_or_eq_some (r.nodes nodeId) with hinfo | ⟨info, hinfo⟩
  · left
    rw [hinfo]
  · right
    refine ⟨home, info, hbound, hinfo, ?_⟩
    rw [hinfo]

/-- An entry changed in the fields that `UPSERT_SQL` writes stays in sync. -/
theorem InSync.updateEntry (h : r.InSync) (nodeId : NodeId) {f : NodeInfo → NodeInfo}
    (hf : ∀ info, upserted (some info) (f info) = f info) : (r.updateEntry nodeId f).InSync := by
  rcases updateEntry_cases r nodeId f with heq | ⟨home, info, hbound, hinfo, heq⟩
  · rwa [heq]
  have hid : (f info).nodeId = nodeId := by
    have hkept : (upserted (some info) (f info)).nodeId = info.nodeId := rfl
    rw [← hf info, hkept, h.nodeId_eq hbound hinfo]
  have hpersist := h.persist_iff hbound (f info)
  rw [hid, hinfo] at hpersist
  rw [heq]
  exact hpersist.mpr (hf info)

/-- Setting columns in the row and the fields that they are loaded as in the entry keeps memory and
database in sync. -/
theorem InSync.setColumns (h : r.InSync) (nodeId : NodeId) {f : NodeInfo → NodeInfo}
    {columns : NodeRow → NodeRow}
    (hf : ∀ row, NodeRow.info nodeId (columns row) = f (NodeRow.info nodeId row)) :
    (r.setColumns nodeId f columns).InSync := by
  unfold Registry.setColumns
  -- An unknown node is not set, in the map as in the table.
  rcases Option.eq_none_or_eq_some (r.nodes nodeId) with hinfo | ⟨info, hinfo⟩
  · rwa [hinfo]
  rw [hinfo]
  dsimp only
  generalize hset : { r with nodes := Function.update r.nodes nodeId (some (f info)) } = r'
  have hhome : r'.currentHomeId = r.currentHomeId := by rw [← hset]
  -- Without a home there is no row to write.
  rcases Option.eq_none_or_eq_some r.currentHomeId with hbound | ⟨home, hbound⟩
  · rw [withBoundHome_none (hhome.trans hbound)]
    intro home hbound'
    rw [hhome, hbound] at hbound'
    cases hbound'
  · rw [withBoundHome_eq (hhome.trans hbound)]
    intro home' hbound'
    obtain rfl : home = home' := Option.some.inj (hbound.symm.trans hbound')
    -- The entry comes from a row, whose columns are updated along with it.
    rw [h home hbound] at hinfo
    obtain ⟨row, hrow, rfl⟩ := Option.map_eq_some_iff.mp hinfo
    dsimp only
    rw [NodesTable.load_updateRow, hrow, Option.map_some, Option.map_some, hf, h home hbound]

end Bound

/-! ## Runs -/

/-- A call on the registry. -/
inductive Op
  /-- `setHomeId`. -/
  | setHomeId (homeIdBytes : Bytes)
  /-- `add`. -/
  | add (info : NodeInfo)
  /-- `remove`. -/
  | remove (nodeId : NodeId)
  /-- `seed`. -/
  | seed (nodeId : NodeId)
  /-- `updateCommandClasses`. -/
  | updateCommandClasses (nodeId : NodeId) (commandClasses : Bytes)
  /-- `updateDeviceClass`. -/
  | updateDeviceClass (nodeId : NodeId) (basicType genericType specificType : UInt8)
  /-- `setSecurityScheme`. -/
  | setSecurityScheme (nodeId : NodeId) (scheme : SecurityScheme)
  /-- `setDeviceIdentity`. -/
  | setDeviceIdentity (nodeId : NodeId) (manufacturerId productTypeId productId : UInt16)
  /-- `setVersionInfo`. -/
  | setVersionInfo (nodeId : NodeId) (libraryType protocolVersion protocolSubVersion
      applicationVersion applicationSubVersion : UInt8)
  /-- `setEndpointInfo`. -/
  | setEndpointInfo (nodeId : NodeId) (endpointCount : UInt8)
      (endpointsDynamic endpointsIdentical : Bool)
  /-- `setZWavePlusInfo`. -/
  | setZWavePlusInfo (nodeId : NodeId) (zwavePlusVersion roleType nodeType : UInt8)
      (installerIconType userIconType : UInt16)

/-- One call. -/
def step (r : Registry) : Op → Registry
  | .setHomeId homeIdBytes => r.setHomeId homeIdBytes
  | .add info => r.add info
  | .remove nodeId => r.remove nodeId
  | .seed nodeId => r.seed nodeId
  | .updateCommandClasses nodeId commandClasses => r.updateCommandClasses nodeId commandClasses
  | .updateDeviceClass nodeId basic generic specific =>
    r.updateDeviceClass nodeId basic generic specific
  | .setSecurityScheme nodeId scheme => r.setSecurityScheme nodeId scheme
  | .setDeviceIdentity nodeId manufacturer type product =>
    r.setDeviceIdentity nodeId manufacturer type product
  | .setVersionInfo nodeId library protocol protocolSub application applicationSub =>
    r.setVersionInfo nodeId library protocol protocolSub application applicationSub
  | .setEndpointInfo nodeId count dynamic identical =>
    r.setEndpointInfo nodeId count dynamic identical
  | .setZWavePlusInfo nodeId version role type installerIcon userIcon =>
    r.setZWavePlusInfo nodeId version role type installerIcon userIcon

/-- The registry after a run, from the start of the daemon on a database. -/
def after (db : NodesTable) (ops : List Op) : Registry := ops.foldl step { db }

/-- The registry after one more call is the one before it, moved by the call. -/
theorem after_concat (db : NodesTable) (ops : List Op) (op : Op) :
    after db (ops ++ [op]) = step (after db ops) op := by
  unfold after
  rw [List.foldl_append]
  rfl

/-- The call is no `add` that changes, of a network that is bound, a field that `UPSERT_SQL` does
not write. -/
def KeepsUnwritten (r : Registry) : Op → Prop
  | .add info => r.currentHomeId ≠ none →
      unwritten info = unwritten ((r.nodes info.nodeId).getD {})
  | _ => True

/-- `add` keeps memory and database in sync exactly if it changes no such field. -/
theorem InSync.add_iff {r : Registry} (h : r.InSync) (info : NodeInfo) :
    (r.add info).InSync ↔ KeepsUnwritten r (.add info) := by
  unfold Registry.add KeepsUnwritten
  rcases Option.eq_none_or_eq_some r.currentHomeId with hbound | ⟨home, hbound⟩
  · rw [withBoundHome_none hbound]
    exact iff_of_true h fun hnone => absurd hbound hnone
  · rw [withBoundHome_eq hbound, h.persist_iff hbound,
      upserted_eq_iff info fun o ho => h.nodeId_eq hbound ho]
    simp [hbound]

/-- Binding a home keeps memory and database in sync, as the nodes are loaded anew. -/
theorem InSync.setHomeId {r : Registry} (h : r.InSync) (homeIdBytes : Bytes) :
    (r.setHomeId homeIdBytes).InSync := by
  unfold Registry.setHomeId
  dsimp only
  split_ifs
  · exact h
  · intro home hbound
    rw [← Option.some.inj hbound]

/-- Removing a node takes it out of memory and database alike. -/
theorem InSync.remove {r : Registry} (h : r.InSync) (nodeId : NodeId) :
    (r.remove nodeId).InSync := by
  unfold Registry.remove
  rcases Option.eq_none_or_eq_some r.currentHomeId with hbound | ⟨home, hbound⟩
  · rwa [withBoundHome_none hbound]
  · rw [withBoundHome_eq hbound]
    intro home' hbound'
    obtain rfl : home = home' := Option.some.inj (hbound.symm.trans hbound')
    dsimp only
    rw [NodesTable.persistRemove, NodesTable.load_updateRow, Option.map_none, h home hbound]

/-- Seeding a node that is not known keeps memory and database in sync, and so does passing over a
known one. -/
theorem InSync.seed {r : Registry} (h : r.InSync) (nodeId : NodeId) :
    (r.seed nodeId).InSync := by
  unfold Registry.seed
  rcases Option.eq_none_or_eq_some r.currentHomeId with hbound | ⟨home, hbound⟩
  · rwa [withBoundHome_none hbound]
  · rw [withBoundHome_eq hbound]
    split_ifs with hknown
    · exact h
    · have hnone : r.nodes nodeId = none := Option.not_isSome_iff_eq_none.mp hknown
      have hpersist := h.persist_iff hbound { nodeId }
      rw [hnone] at hpersist
      exact hpersist.mpr rfl

/-- A call keeps memory and database in sync exactly if it is no such `add`. -/
theorem InSync.step_iff {r : Registry} (h : r.InSync) (op : Op) :
    (step r op).InSync ↔ KeepsUnwritten r op := by
  cases op with
  | add info => exact h.add_iff info
  | setHomeId homeIdBytes => exact iff_of_true (h.setHomeId homeIdBytes) trivial
  | remove nodeId => exact iff_of_true (h.remove nodeId) trivial
  | seed nodeId => exact iff_of_true (h.seed nodeId) trivial
  | updateCommandClasses nodeId commandClasses =>
    exact iff_of_true (h.updateEntry nodeId fun info => rfl) trivial
  | updateDeviceClass nodeId basic generic specific =>
    exact iff_of_true (h.updateEntry nodeId fun info => rfl) trivial
  | setSecurityScheme nodeId scheme =>
    exact iff_of_true (h.setColumns nodeId fun row => rfl) trivial
  | setDeviceIdentity nodeId manufacturer type product =>
    exact iff_of_true (h.setColumns nodeId fun row => rfl) trivial
  | setVersionInfo nodeId library protocol protocolSub application applicationSub =>
    exact iff_of_true (h.setColumns nodeId fun row => rfl) trivial
  | setEndpointInfo nodeId count dynamic identical =>
    exact iff_of_true (h.setColumns nodeId fun row => rfl) trivial
  | setZWavePlusInfo nodeId version role type installerIcon userIcon =>
    exact iff_of_true (h.setColumns nodeId fun row => rfl) trivial

/-- Memory and database are in sync all through a run exactly if no `add` of the run changes, of a
network that is bound, a field that `UPSERT_SQL` does not write. -/
theorem inSync_iff (db : NodesTable) (ops : List Op) :
    (∀ pre, pre <+: ops → (after db pre).InSync) ↔
      ∀ pre op, pre ++ [op] <+: ops → KeepsUnwritten (after db pre) op := by
  constructor
  · intro hsync pre op hpre
    have hbefore := hsync pre ((List.prefix_append _ _).trans hpre)
    have hafter := hsync _ hpre
    rw [after_concat] at hafter
    exact (hbefore.step_iff op).mp hafter
  · intro hkeeps pre hpre
    induction pre using List.reverseRecOn with
    | nil =>
      intro home hbound
      cases hbound
    | append_singleton pre op ih =>
      rw [after_concat]
      exact ((ih ((List.prefix_append _ _).trans hpre)).step_iff op).mpr (hkeeps pre op hpre)

/-- A node is included, made secure, and then included again. -/
def reincluded : List Op :=
  [.setHomeId [0xE2, 0xA1, 0xB0, 0x7C], .add { nodeId := 5, basicType := 4 },
    .setSecurityScheme 5 .s0, .add { nodeId := 5, basicType := 4 }]

/-- In memory the node is not secure any more, and after a restart it is. -/
theorem reincluded_outOfSync :
    ((after (fun _ _ => none) reincluded).nodes 5).map NodeInfo.securityScheme = some .none ∧
      (((after (fun _ _ => none) reincluded).restart.setHomeId [0xE2, 0xA1, 0xB0, 0x7C]).nodes 5).map
        NodeInfo.securityScheme = some .s0 ∧
      ¬ ∀ db ops, (after db ops).InSync := by
  refine ⟨by decide +kernel, by decide +kernel, fun h => ?_⟩
  have hsync := h (fun _ _ => none) reincluded
  have hrestart : ((after (fun _ _ => none) reincluded).restart.setHomeId
      [0xE2, 0xA1, 0xB0, 0x7C]).nodes = _ := hsync.restart (by decide +kernel)
  have hnode := congrArg (fun nodes => (nodes 5).map NodeInfo.securityScheme) hrestart
  exact absurd hnode (by decide +kernel)

/-! ## The registry that the security code sees -/

/-- Different home ids have different texts. -/
theorem formatHomeId_injective : Function.Injective formatHomeId :=
  @Bytes.hexText_injective hexDigit (by decide)

/-- `a` is what the security code sees of the registry: the scheme of each entry. -/
structure Abstracts (r : Registry) (a : NodeRegistry) : Prop where
  /-- The home ids. -/
  homeId : r.currentHomeId = a.homeId.map formatHomeId
  /-- The schemes. -/
  nodes : ∀ nodeId, a.nodes nodeId = (r.nodes nodeId).map NodeInfo.securityScheme

/-- The call as the security code sees it. -/
def abstractStep (r : Registry) (a : NodeRegistry) : Op → NodeRegistry
  | .setHomeId homeIdBytes => a.setHomeId homeIdBytes fun nodeId =>
      (loadNodesForHome r.db (formatHomeId homeIdBytes) nodeId).map NodeInfo.securityScheme
  | .add info => a.add info.nodeId
  | .remove nodeId => a.remove nodeId
  | .seed nodeId => a.seed nodeId
  | .setSecurityScheme nodeId scheme => a.setSecurityScheme nodeId scheme
  | _ => a

section Abstract

variable {r : Registry} {a : NodeRegistry}

/-- A home is bound exactly when the abstract registry has one. -/
theorem Abstracts.homeId_none (h : Abstracts r a) : r.currentHomeId = none ↔ a.homeId = none := by
  rw [h.homeId, Option.map_eq_none_iff]

/-- Replacing an entry on both sides, under a bound home, keeps the abstraction. -/
theorem Abstracts.update (h : Abstracts r a) (nodeId : NodeId) (entry : Option NodeInfo)
    (db : NodesTable) (hbound : a.homeId ≠ none) :
    Abstracts { r with nodes := Function.update r.nodes nodeId entry, db }
      (a.setEntry nodeId (entry.map NodeInfo.securityScheme)) := by
  unfold NodeRegistry.setEntry
  rw [if_neg hbound]
  refine ⟨h.homeId, fun other => ?_⟩
  dsimp only
  by_cases hnode : other = nodeId
  · subst hnode
    rw [Function.update_self, Function.update_self]
  · rw [Function.update_of_ne hnode, Function.update_of_ne hnode]
    exact h.nodes other

/-- Replacing an entry by one with the same scheme is no change to the security code. -/
theorem Abstracts.same (h : Abstracts r a) {nodeId : NodeId} {info info' : NodeInfo}
    (hinfo : r.nodes nodeId = some info) (hscheme : info'.securityScheme = info.securityScheme)
    (db : NodesTable) :
    Abstracts { r with nodes := Function.update r.nodes nodeId (some info'), db } a := by
  refine ⟨h.homeId, fun other => ?_⟩
  dsimp only
  by_cases hnode : other = nodeId
  · subst hnode
    rw [Function.update_self, h.nodes, hinfo, Option.map_some, Option.map_some, hscheme]
  · rw [Function.update_of_ne hnode, h.nodes]

/-- A change of an entry that leaves its scheme is none to the security code. -/
theorem Abstracts.updateEntry (h : Abstracts r a) (nodeId : NodeId) {f : NodeInfo → NodeInfo}
    (hf : ∀ info, (f info).securityScheme = info.securityScheme) :
    Abstracts (r.updateEntry nodeId f) a := by
  rcases updateEntry_cases r nodeId f with heq | ⟨home, info, -, hinfo, heq⟩
  · rwa [heq]
  · rw [heq]
    exact h.same hinfo (hf info) _

/-- What `setColumns` leaves in memory, whether a home is bound or not. -/
theorem setColumns_eq (r : Registry) {nodeId : NodeId} {info : NodeInfo}
    (hinfo : r.nodes nodeId = some info) (f : NodeInfo → NodeInfo) (columns : NodeRow → NodeRow) :
    ∃ db, r.setColumns nodeId f columns =
      { r with nodes := Function.update r.nodes nodeId (some (f info)), db } := by
  unfold Registry.setColumns
  rw [hinfo]
  dsimp only
  unfold withBoundHome
  dsimp only
  split
  · exact ⟨r.db, rfl⟩
  · exact ⟨_, rfl⟩

/-- Setting columns other than the scheme's is no change to the security code. -/
theorem Abstracts.setColumns (h : Abstracts r a) (nodeId : NodeId) {f : NodeInfo → NodeInfo}
    (columns : NodeRow → NodeRow) (hf : ∀ info, (f info).securityScheme = info.securityScheme) :
    Abstracts (r.setColumns nodeId f columns) a := by
  rcases Option.eq_none_or_eq_some (r.nodes nodeId) with hinfo | ⟨info, hinfo⟩
  · unfold Registry.setColumns
    rwa [hinfo]
  · obtain ⟨db, heq⟩ := setColumns_eq r hinfo f columns
    rw [heq]
    exact h.same hinfo (hf info) db

/-- Setting the scheme of a node in the registry sets it in what the security code sees, for a node
that is known and otherwise not at all. -/
theorem Abstracts.setSecurityScheme (h : Abstracts r a) (nodeId : NodeId) (scheme : SecurityScheme) :
    Abstracts (r.setSecurityScheme nodeId scheme) (a.setSecurityScheme nodeId scheme) := by
  unfold Registry.setSecurityScheme NodeRegistry.setSecurityScheme
  have hnode := h.nodes nodeId
  rcases Option.eq_none_or_eq_some (r.nodes nodeId) with hinfo | ⟨info, hinfo⟩
  · rw [hinfo] at hnode
    unfold Registry.setColumns
    rwa [hinfo, hnode]
  · obtain ⟨db, heq⟩ := setColumns_eq r hinfo (fun info => { info with securityScheme := scheme })
      fun row => { row with securityScheme := scheme }
    rw [hinfo, Option.map_some] at hnode
    rw [heq, hnode]
    refine ⟨h.homeId, fun other => ?_⟩
    dsimp only
    by_cases hother : other = nodeId
    · subst hother
      rw [Function.update_self, Function.update_self]
      rfl
    · rw [Function.update_of_ne hother, Function.update_of_ne hother]
      exact h.nodes other

/-- The security code's registry follows the registry, call by call, as long as `add` is given
entries without security. -/
theorem Abstracts.step (h : Abstracts r a) (op : Op)
    (hadd : ∀ info, op = .add info → info.securityScheme = .none) :
    Abstracts (step r op) (abstractStep r a op) := by
  cases op with
  | setHomeId homeIdBytes =>
    simp only [Registry.step, abstractStep, Registry.setHomeId, NodeRegistry.setHomeId]
    -- A home is bound in the one as in the other, as its text tells the home.
    have hsame : r.currentHomeId = some (formatHomeId homeIdBytes) ↔ a.homeId = some homeIdBytes := by
      rw [h.homeId, Option.map_eq_some_iff]
      constructor
      · rintro ⟨bytes, hbytes, heq⟩
        rw [hbytes, formatHomeId_injective heq]
      · exact fun hbytes => ⟨homeIdBytes, hbytes, rfl⟩
    by_cases hbound : a.homeId = some homeIdBytes
    · rwa [if_pos (hsame.mpr hbound), if_pos hbound]
    · rw [if_neg (mt hsame.mp hbound), if_neg hbound]
      exact ⟨rfl, fun nodeId => rfl⟩
  -- Nothing is added without a home.
  | add info =>
    simp only [Registry.step, abstractStep, Registry.add, NodeRegistry.add]
    rcases Option.eq_none_or_eq_some r.currentHomeId with hbound | ⟨home, hbound⟩
    · rw [withBoundHome_none hbound, NodeRegistry.setEntry, if_pos (h.homeId_none.mp hbound)]
      exact h
    · rw [withBoundHome_eq hbound, ← hadd info rfl]
      exact h.update info.nodeId (some info) _ (mt h.homeId_none.mpr (by simp [hbound]))
  | remove nodeId =>
    simp only [Registry.step, abstractStep, Registry.remove, NodeRegistry.remove]
    rcases Option.eq_none_or_eq_some r.currentHomeId with hbound | ⟨home, hbound⟩
    · rw [withBoundHome_none hbound, NodeRegistry.setEntry, if_pos (h.homeId_none.mp hbound)]
      exact h
    · rw [withBoundHome_eq hbound]
      exact h.update nodeId none _ (mt h.homeId_none.mpr (by simp [hbound]))
  -- A node that is known is not seeded once more.
  | seed nodeId =>
    simp only [Registry.step, abstractStep, Registry.seed, NodeRegistry.seed]
    have hknown : (a.nodes nodeId).isSome = (r.nodes nodeId).isSome := by
      rw [h.nodes nodeId, Option.isSome_map]
    rw [hknown]
    rcases Option.eq_none_or_eq_some r.currentHomeId with hbound | ⟨home, hbound⟩
    · rw [withBoundHome_none hbound, NodeRegistry.setEntry, if_pos (h.homeId_none.mp hbound), ite_self]
      exact h
    · rw [withBoundHome_eq hbound]
      split_ifs
      · exact h
      · exact h.update nodeId (some { nodeId }) _ (mt h.homeId_none.mpr (by simp [hbound]))
  -- The setters change one entry, of a node that is known in both or in neither.
  | setSecurityScheme nodeId scheme => exact h.setSecurityScheme nodeId scheme
  | updateCommandClasses nodeId commandClasses => exact h.updateEntry nodeId fun info => rfl
  | updateDeviceClass nodeId basic generic specific => exact h.updateEntry nodeId fun info => rfl
  | setDeviceIdentity nodeId manufacturer type product =>
    exact h.setColumns nodeId _ fun info => rfl
  | setVersionInfo nodeId library protocol protocolSub application applicationSub =>
    exact h.setColumns nodeId _ fun info => rfl
  | setEndpointInfo nodeId count dynamic identical => exact h.setColumns nodeId _ fun info => rfl
  | setZWavePlusInfo nodeId version role type installerIcon userIcon =>
    exact h.setColumns nodeId _ fun info => rfl

end Abstract

end Registry

end Zwaved.Storage
