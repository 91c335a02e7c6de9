import Mathlib.Data.Int.Notation
import Mathlib.Tactic.IntervalCases
import Zwaved.Sql.Database
import Zwaved.NodeRegistry

/-!
# The schemas of `nodes.db`

`NodeRegistry.cpp` and `SceneStore.cpp` keep their tables in one file and bring it up to date when
they open it. `migrateSchema` takes `nodes` from any of its versions to the fifth, column by column,
and stamps `user_version` last. `runSchema` takes `scene_triggers` from its version zero, which had
no `source`, to version one by way of a legacy table, and stamps the same `user_version`.
-/

namespace Zwaved.Storage

open Sql

/-- A value in a column. -/
inductive Value
  /-- An integer. -/
  | int (n : ℤ)
  /-- A text. -/
  | text (s : String)
  /-- A blob. -/
  | blob (data : Bytes)
  deriving DecidableEq, Repr

/-- The file `nodes.db`. -/
abbrev NodesDb := Database Value

/-! ## `NodeRegistry` -/

/-- `CURRENT_SCHEMA_VERSION`. -/
def currentSchemaVersion : ℕ := 5

/-- The columns of `nodes` in its first version. -/
def nodeColumns : List String :=
  ["home_id", "node_id", "basic_type", "generic_type", "specific_type", "command_classes"]

/-- The column of `MIGRATE_V1_ADD_SCHEME_SQL`. -/
def schemeColumn : Row Value := [("security_scheme", .int 0)]

/-- The columns of `MIGRATE_V3_ADD_IDENTITY_SQL`. -/
def identityColumns : Row Value :=
  [("manufacturer_id", .int 0), ("product_type_id", .int 0), ("product_id", .int 0)]

/-- The columns of `MIGRATE_V4_ADD_CAPS_SQL`. -/
def capsColumns : Row Value :=
  [("library_type", .int 0), ("protocol_version", .int 0), ("protocol_sub_version", .int 0),
    ("application_version", .int 0), ("application_sub_version", .int 0),
    ("endpoint_count", .int 0), ("endpoints_dynamic", .int 0), ("endpoints_identical", .int 0),
    ("zwaveplus_version", .int 0), ("role_type", .int 0), ("node_type", .int 0),
    ("installer_icon_type", .int 0), ("user_icon_type", .int 0)]

/-- The columns that `SCHEMA_SQL` declares. `SELECT_FOR_HOME_SQL` names all of them. -/
def schemaColumns : List String :=
  nodeColumns ++ (schemeColumn ++ identityColumns ++ capsColumns).map Prod.fst

/-- The primary key of `nodes`. -/
def nodeKey : List String := ["home_id", "node_id"]

/-- `MIGRATE_V2_RENAME_SQL`. -/
def migrateV2Rename : Statement Value := .renameColumn "nodes" "secure" "security_scheme"

/-- The statements of `migrateSchema`, for the version that it reads. -/
def migrateStatements (version : ℕ) : List (Statement Value) :=
  if version ≥ currentSchemaVersion then []
  else
    (if version = 0 then
      [.dropTableIfExists "nodes", .createTable "nodes" schemaColumns nodeKey]
    else
      (if version = 1 then Database.addColumnStatements "nodes" schemeColumn else []) ++
      (if version = 2 then [migrateV2Rename] else []) ++
      (if version ≤ 3 then Database.addColumnStatements "nodes" identityColumns else []) ++
      Database.addColumnStatements "nodes" capsColumns) ++
    [.setUserVersion 5]

/-- `migrateSchema`. -/
def migrateSchema (db : NodesDb) : NodesDb × Bool := db.execAll (migrateStatements db.userVersion)

/-! ## `SceneStore` -/

/-- `SCHEMA_SCENES_SQL`. -/
def schemaScenes : Statement Value :=
  .createTable "scenes" ["home_id", "scene_id", "actions"] ["home_id", "scene_id"]

/-- The columns of `scene_triggers` in version zero. -/
def legacyTriggerColumns : List String :=
  ["home_id", "source_node_id", "scene_number", "key_attribute", "scene_id"]

/-- The primary key of `scene_triggers` in version zero. -/
def legacyTriggerKey : List String :=
  ["home_id", "source_node_id", "scene_number", "key_attribute"]

/-- The columns of `scene_triggers`. -/
def triggerColumns : List String :=
  ["home_id", "source", "source_node_id", "scene_number", "key_attribute", "scene_id"]

/-- The primary key of `scene_triggers`. -/
def triggerKey : List String :=
  ["home_id", "source", "source_node_id", "scene_number", "key_attribute"]

/-- `SCHEMA_TRIGGERS_SQL`. -/
def schemaTriggers : Statement Value := .createTable "scene_triggers" triggerColumns triggerKey

/-- `MIGRATE_RENAME_SQL`. -/
def migrateRename : Statement Value := .renameTable "scene_triggers" "scene_triggers_legacy"

/-- What `MIGRATE_COPY_SQL` selects. -/
def copiedTrigger : List (String × Source Value) :=
  [("home_id", .column "home_id"), ("source", .value (.int 0)),
    ("source_node_id", .column "source_node_id"), ("scene_number", .column "scene_number"),
    ("key_attribute", .column "key_attribute"), ("scene_id", .column "scene_id")]

/-- `MIGRATE_COPY_SQL`. -/
def migrateCopy : Statement Value :=
  .insertOrIgnoreSelect "scene_triggers" copiedTrigger "scene_triggers_legacy"

/-- `MIGRATE_DROP_SQL`. -/
def migrateDrop : Statement Value := .dropTable "scene_triggers_legacy"

/-- `SCHEMA_VERSION`. -/
def schemaVersion : ℕ := 1

/-- The statements of `runSchema`, for the version that it reads and whether there is a table
`scene_triggers`. It reads both after the first statement, which changes neither. -/
def schemaStatements (userVersion : ℕ) (legacy : Bool) : List (Statement Value) :=
  schemaScenes ::
    if userVersion ≥ schemaVersion then []
    else
      (if legacy then [migrateRename, schemaTriggers, migrateCopy, migrateDrop]
        else [schemaTriggers]) ++
      [.setUserVersion 1]

/-- `runSchema`. -/
def runSchema (db : NodesDb) : NodesDb × Bool :=
  db.execAll (schemaStatements db.userVersion (db.tables "scene_triggers").isSome)

/-! ## What `migrateSchema` does -/

/-- The columns of `nodes` in each version. -/
def columnsAt : ℕ → List String
  | 1 => nodeColumns
  | 2 => nodeColumns ++ ["secure"]
  | 3 => nodeColumns ++ schemeColumn.map Prod.fst
  | 4 => nodeColumns ++ (schemeColumn ++ identityColumns).map Prod.fst
  | _ => schemaColumns

/-- What became of a column of `nodes`. -/
def currentColumn : String → String := Table.renamed "secure" "security_scheme"

/-- The file has `nodes` in a version, and says so. -/
structure NodesAt (db : NodesDb) (version : ℕ) (t : Table Value) : Prop where
  /-- There is such a version. -/
  known : 1 ≤ version ∧ version ≤ currentSchemaVersion
  /-- The version stamped. -/
  stamped : db.userVersion = version
  /-- The table. -/
  table : db.tables "nodes" = some t
  /-- Its columns. -/
  columns : t.columns = columnsAt version
  /-- Its rows. -/
  wellFormed : t.WellFormed

/-- The columns that are added on the way from a version to the current one. -/
def addedSince : ℕ → Row Value
  | 1 => schemeColumn ++ identityColumns ++ capsColumns
  | 2 | 3 => identityColumns ++ capsColumns
  | 4 => capsColumns
  | _ => []

/-- The migration from an older version renames at version 2, adds the columns that the version
lacks and stamps version 5. -/
theorem migrateStatements_eq {version : ℕ} (hpos : 1 ≤ version) (hlt : version < 5) :
    migrateStatements version = (if version = 2 then [migrateV2Rename] else []) ++
      Database.addColumnStatements "nodes" (addedSince version) ++ [.setUserVersion 5] := by
  interval_cases version <;> rfl

/-- The last part of a migration: columns that are added, and the stamp. -/
theorem execAll_added {db : NodesDb} {t : Table Value} (ht : db.tables "nodes" = some t)
    {columns : Row Value} (hnew : (t.columns ++ columns.map Prod.fst).Nodup) :
    db.execAll (Database.addColumnStatements "nodes" columns ++ [.setUserVersion 5]) =
      ({ db.setTable "nodes" (some (t.addColumns columns)) with userVersion := 5 }, true) := by
  rw [Database.execAll_append (Database.execAll_addColumns ht hnew)]
  rfl

/-- The outcome of a migration: it succeeds, the table has the current columns and carries the rows
over, and the other tables are as they were. -/
structure Migrated (db : NodesDb) (t : Table Value) (result : NodesDb × Bool) : Prop where
  /-- The migration succeeds. -/
  ok : result.2 = true
  /-- The version is stamped. -/
  stamped : result.1.userVersion = 5
  /-- The table is current, with every row. -/
  table : ∃ t', result.1.tables "nodes" = some t' ∧ t'.columns = schemaColumns ∧
    Carried t t' currentColumn
  /-- Nothing else changes. -/
  others : ∀ name ≠ "nodes", result.1.tables name = db.tables name

/-- Columns are added to a table that has the first ones. -/
theorem migrated_added {db db₁ : NodesDb} {t t₁ : Table Value} {columns : Row Value}
    (hothers : ∀ name ≠ "nodes", db₁.tables name = db.tables name)
    (ht : db₁.tables "nodes" = some t₁) (hconforms : t₁.Conforms)
    (hcolumns : t₁.columns ++ columns.map Prod.fst = schemaColumns)
    (hcarried : Carried t t₁ currentColumn)
    (hkept : ∀ column ∈ t.columns, currentColumn column ∈ t₁.columns) :
    Migrated db t (db₁.execAll (Database.addColumnStatements "nodes" columns ++
      [.setUserVersion 5])) := by
  have hself : (db₁.setTable "nodes" (some (t₁.addColumns columns))).tables "nodes" =
      some (t₁.addColumns columns) := Database.setTable_self ..
  rw [execAll_added ht (by rw [hcolumns]; decide)]
  refine ⟨rfl, rfl, ⟨t₁.addColumns columns, hself, hcolumns, ?_⟩, ?_⟩
  · exact hcarried.trans (carried_addColumns hconforms columns) hkept
  · intro name hname
    exact (Database.setTable_of_ne _ hname _).trans (hothers name hname)

/-- `migrateSchema` brings every version up to date. -/
theorem migrateSchema_nodesAt {db : NodesDb} {version : ℕ} {t : Table Value}
    (h : NodesAt db version t) : Migrated db t (migrateSchema db) := by
  obtain ⟨⟨hpos, hle⟩, hstamped, ht, hcolumns, hwell⟩ := h
  unfold migrateSchema
  rw [hstamped]
  -- A version without the old flag gets columns only.
  have hadded : columnsAt version ++ (addedSince version).map Prod.fst = schemaColumns →
      "secure" ∉ columnsAt version →
      Migrated db t (db.execAll (Database.addColumnStatements "nodes" (addedSince version) ++
        [.setUserVersion 5])) := by
    intro hschema hnone
    have hsame : ∀ column ∈ t.columns, column = currentColumn column := by
      intro column hcolumn
      rw [hcolumns] at hcolumn
      exact (if_neg (fun heq : column = "secure" => hnone (heq ▸ hcolumn))).symm
    refine migrated_added (fun _ _ => rfl) ht hwell.conforms (by rw [hcolumns, hschema])
      ((Carried.refl t).congr hsame) fun column hcolumn => ?_
    rwa [← hsame column hcolumn]
  have hcases : version = 5 ∨ version = 2 ∨ version = 1 ∨ version = 3 ∨ version = 4 := by
    simp only [currentSchemaVersion] at hle
    omega
  rcases hcases with rfl | rfl | rfl | rfl | rfl
  · -- The table is current already.
    have hkept : Carried t t currentColumn := by
      refine (Carried.refl t).congr fun column hcolumn => ?_
      rw [hcolumns] at hcolumn
      revert column
      decide
    exact ⟨rfl, hstamped, ⟨t, ht, hcolumns, hkept⟩, fun _ _ => rfl⟩
  · rw [migrateStatements_eq (by decide) (by decide)]
    have hrename : db.exec migrateV2Rename =
        some (db.setTable "nodes" (some (t.renameColumn "secure" "security_scheme"))) := by
      simp only [Database.exec, migrateV2Rename, ht, hcolumns]
      rfl
    have hfree : "security_scheme" ∉ t.columns := by
      rw [hcolumns]
      decide
    rw [if_pos rfl, List.append_assoc, List.singleton_append, Database.execAll_cons hrename]
    refine migrated_added (fun name hname => Database.setTable_of_ne _ hname _)
      (Database.setTable_self ..) (hwell.conforms.renameColumn _ _) ?_
      (carried_renameColumn hwell.conforms hfree) fun column hcolumn => ?_
    · simp only [Table.renameColumn, hcolumns]
      rfl
    · exact List.mem_map_of_mem hcolumn
  · rw [migrateStatements_eq (by decide) (by decide)]
    exact hadded rfl (by decide)
  · rw [migrateStatements_eq (by decide) (by decide)]
    exact hadded rfl (by decide)
  · rw [migrateStatements_eq (by decide) (by decide)]
    exact hadded rfl (by decide)

end Zwaved.Storage
