import Zwaved.Storage.SharedVersion

/-!
# A migration that is cut short

The statements of a migration commit one by one, and the version is stamped last. If the daemon dies
between two of them, the next start finds a file that is partly migrated and still has the old
version, and runs the same statements again from the first.

`survives_iff`: `migrateSchema` gets through the second time only if it had not begun or had ended,
since the first column it adds or renames is there already. `runSchema` gets through up to the
rename and after the drop; in between, either the rename fails since the legacy table is there, or
it finds no triggers to migrate and the legacy table is left behind.
-/

namespace Zwaved.Storage

open Sql

/-! ## `NodeRegistry` -/

/-- `static_cast<SecurityScheme>` of the column. -/
def readScheme : Value → Option SecurityScheme
  | .int 0 => some .none
  | .int 1 => some .s0
  | .int 2 => some .s2Unauthenticated
  | .int 3 => some .s2Authenticated
  | .int 4 => some .s2AccessControl
  | _ => none

/-- What `migrateSchema` makes of a file, when it is run again on what was left after `k`
statements. -/
def migrateAgain (db : NodesDb) (k : ℕ) : NodesDb × Bool :=
  migrateSchema (db.interrupted (migrateStatements db.userVersion) k)

/-- The second run succeeds, the table is current, and every row is in it, with its flag read as a
scheme. -/
structure NodesSurvive (db : NodesDb) (t : Table Value) (k : ℕ) : Prop where
  /-- The second run succeeds. -/
  ok : (migrateAgain db k).2 = true
  /-- The table is current, with every row. -/
  table : ∃ t', (migrateAgain db k).1.tables "nodes" = some t' ∧ t'.columns = schemaColumns ∧
    ∀ row ∈ t.rows, ∃ row' ∈ t'.rows,
      (∀ column ∈ t.columns, Row.get row' (currentColumn column) = Row.get row column) ∧
      (Row.get row "secure" = some (.int 0) →
        (Row.get row' "security_scheme").bind readScheme = some .none) ∧
      (Row.get row "secure" = some (.int 1) →
        (Row.get row' "security_scheme").bind readScheme = some .s0)

section Nodes

variable {db : NodesDb} {version : ℕ} {t : Table Value}

/-- A migration that succeeds carries the flag over. -/
theorem nodesSurvive_of_migrated {db₁ : NodesDb} {k : ℕ} (hconforms : t.Conforms)
    (h : Migrated db₁ t (migrateAgain db k)) : NodesSurvive db t k := by
  obtain ⟨t', ht', hcolumns, hcarried⟩ := h.table
  refine ⟨h.ok, t', ht', hcolumns, fun row hrow => ?_⟩
  obtain ⟨row', hrow', hget⟩ := hcarried row hrow
  have hflag : ∀ v, Row.get row "secure" = some v → Row.get row' "security_scheme" = some v := by
    intro v hv
    have hmem : "secure" ∈ t.columns := by
      rw [← hconforms row hrow, ← Row.isSome_get, hv]
      rfl
    exact (hget "secure" hmem).trans hv
  refine ⟨row', hrow', hget, fun hsecure => ?_, fun hsecure => ?_⟩
  · rw [hflag _ hsecure]
    rfl
  · rw [hflag _ hsecure]
    rfl

/-- A migration whose first statement fails if it is run again gets stuck in between. -/
theorem not_nodesSurvive {first : Statement Value} {columns : Row Value} {db₁ : NodesDb}
    {P : NodesDb → Prop}
    (hstatements : migrateStatements db.userVersion =
      first :: (Database.addColumnStatements "nodes" columns ++ [.setUserVersion 5]))
    (hexec : db.exec first = some db₁) (hversion : db₁.userVersion = db.userVersion)
    (hstart : P db₁)
    (hkeeps : ∀ column ∈ columns, ∀ db db', P db →
      db.exec (.addColumn "nodes" column.1 column.2) = some db' → P db')
    (hfails : ∀ db, P db → db.exec first = none) {k : ℕ} (hpos : 1 ≤ k)
    (hlt : k < (migrateStatements db.userVersion).length) : ¬ NodesSurvive db t k := by
  intro hsurvive
  -- The stamp is not reached.
  have hinterrupted : db.interrupted (migrateStatements db.userVersion) k =
      db.interrupted (first :: Database.addColumnStatements "nodes" columns) k := by
    rw [hstatements, List.length_cons, List.length_append, List.length_singleton] at hlt
    unfold Database.interrupted
    rw [hstatements, ← List.cons_append, List.take_append_of_le_length]
    rw [List.length_cons]
    omega
  have hkept : ∀ statement ∈ Database.addColumnStatements "nodes" columns, ∀ db₂ db₃ : NodesDb,
      db₂.userVersion = db.userVersion ∧ P db₂ → db₂.exec statement = some db₃ →
      db₃.userVersion = db.userVersion ∧ P db₃ := by
    intro statement hstatement db₂ db₃ h hexec'
    obtain ⟨column, hcolumn, rfl⟩ := List.mem_map.mp hstatement
    exact ⟨(Database.userVersion_of_addColumn hexec').trans h.1,
      hkeeps column hcolumn db₂ db₃ h.2 hexec'⟩
  obtain ⟨⟨hsame, -⟩, hnone⟩ := Database.exec_interrupted
    (P := fun db' => db'.userVersion = db.userVersion ∧ P db') hexec ⟨hversion, hstart⟩ hkept
    (fun db' h => hfails db' h.2) hpos
  have hok := hsurvive.ok
  unfold migrateAgain migrateSchema at hok
  rw [hinterrupted, hsame, hstatements, Database.execAll_fails hnone] at hok
  cases hok

/-- A column that was added cannot be added again. -/
theorem not_nodesSurvive_added (h : NodesAt db version t) (hold : version < 5) (hne : version ≠ 2)
    {column : String × Value} {columns : Row Value} (hadded : addedSince version = column :: columns)
    (hnew : column.1 ∉ columnsAt version) {k : ℕ} (hpos : 1 ≤ k)
    (hlt : k < (migrateStatements db.userVersion).length) : ¬ NodesSurvive db t k := by
  have hstatements : migrateStatements db.userVersion = .addColumn "nodes" column.1 column.2 ::
      (Database.addColumnStatements "nodes" columns ++ [.setUserVersion 5]) := by
    rw [h.stamped, migrateStatements_eq h.known.1 hold, if_neg hne, hadded]
    rfl
  have hexec : db.exec (.addColumn "nodes" column.1 column.2) =
      some (db.setTable "nodes" (some (t.addColumns [column]))) := by
    simp only [Database.exec, h.table, h.columns, if_neg hnew]
  have hmem : column.1 ∈ (t.addColumns [column]).columns :=
    List.mem_append_right _ List.mem_cons_self
  refine not_nodesSurvive (P := fun db => ∃ t, db.tables "nodes" = some t ∧ column.1 ∈ t.columns)
    hstatements hexec rfl ⟨_, Database.setTable_self .., hmem⟩ ?_ ?_ hpos hlt
  · intro _ _ db₂ db₃ h₂ hexec'
    exact Database.mem_columns_of_addColumn h₂ hexec'
  · rintro db₂ ⟨t₂, ht₂, hmem₂⟩
    simp only [Database.exec, ht₂, if_pos hmem₂]

/-- A column that was renamed cannot be renamed again. -/
theorem not_nodesSurvive_renamed (h : NodesAt db 2 t) {k : ℕ} (hpos : 1 ≤ k)
    (hlt : k < (migrateStatements db.userVersion).length) : ¬ NodesSurvive db t k := by
  have hcolumns : t.columns = columnsAt 2 := h.columns
  -- The statement that renames the column is the first of the migration from version 2.
  have hexec : db.exec migrateV2Rename =
      some (db.setTable "nodes" (some (t.renameColumn "secure" "security_scheme"))) := by
    simp only [Database.exec, migrateV2Rename, h.table, hcolumns]
    rfl
  -- Once it has run, the column that a second run renames is gone.
  have hgone : "secure" ∉ (t.renameColumn "secure" "security_scheme").columns := by
    simp only [Table.renameColumn, hcolumns]
    decide
  have hstatements : migrateStatements db.userVersion = migrateV2Rename ::
      (Database.addColumnStatements "nodes" (addedSince 2) ++ [.setUserVersion 5]) := by
    rw [h.stamped]
    rfl
  refine not_nodesSurvive (P := fun db => ∃ t, db.tables "nodes" = some t ∧ "secure" ∉ t.columns)
    hstatements hexec rfl ⟨_, Database.setTable_self .., hgone⟩ ?_ ?_ hpos hlt
  -- The statements between the first and the last add columns, and none of them has that name.
  · intro column hcolumn db₂ db₃ h₂ hexec'
    have hne : "secure" ≠ column.1 := by
      rintro heq
      have hmem : "secure" ∈ (addedSince 2).map Prod.fst := heq ▸ List.mem_map_of_mem hcolumn
      exact absurd hmem (by decide)
    exact Database.notMem_columns_of_addColumn hne h₂ hexec'
  -- So the second run fails on its first statement.
  · rintro db₂ ⟨t₂, ht₂, hnone⟩
    simp only [Database.exec, migrateV2Rename, ht₂, if_pos (Or.inl hnone)]

/-- `migrateSchema` can be run again only if it had not begun or had ended. -/
theorem nodesSurvive_iff (h : NodesAt db version t) (hold : version < 5) {k : ℕ}
    (hk : k ≤ (migrateStatements db.userVersion).length) :
    NodesSurvive db t k ↔ k = 0 ∨ k = (migrateStatements db.userVersion).length := by
  have hmigrated := migrateSchema_nodesAt h
  constructor
  -- Interrupted on the way, a second run repeats a statement that cannot be repeated: the rename,
  -- or else the first of the columns.
  · intro hsurvive
    by_contra hbetween
    rw [not_or] at hbetween
    have hpos : 1 ≤ k := Nat.pos_of_ne_zero hbetween.1
    have hlt : k < (migrateStatements db.userVersion).length := lt_of_le_of_ne hk hbetween.2
    have hcases : version = 2 ∨ version = 1 ∨ version = 3 ∨ version = 4 := by
      have hone := h.known.1
      omega
    revert hsurvive
    rcases hcases with rfl | rfl | rfl | rfl
    · exact not_nodesSurvive_renamed h hpos hlt
    · exact not_nodesSurvive_added h hold (by decide) rfl (by decide) hpos hlt
    · exact not_nodesSurvive_added h hold (by decide) rfl (by decide) hpos hlt
    · exact not_nodesSurvive_added h hold (by decide) rfl (by decide) hpos hlt
  · rintro (rfl | rfl)
    -- Interrupted before the first statement, the second run is the first.
    · exact nodesSurvive_of_migrated h.wellFormed.conforms hmigrated
    · -- The first run is complete, and the second has nothing to do.
      have hinterrupted : db.interrupted (migrateStatements db.userVersion)
          (migrateStatements db.userVersion).length = (migrateSchema db).1 := by
        unfold Database.interrupted
        rw [List.take_length]
        rfl
      have hagain : migrateAgain db (migrateStatements db.userVersion).length =
          ((migrateSchema db).1, true) := by
        unfold migrateAgain
        rw [hinterrupted]
        unfold migrateSchema at hmigrated ⊢
        rw [hmigrated.stamped]
        rfl
      have hended : Migrated db t (migrateAgain db (migrateStatements db.userVersion).length) := by
        rw [hagain]
        exact ⟨rfl, hmigrated.stamped, hmigrated.table, hmigrated.others⟩
      exact nodesSurvive_of_migrated h.wellFormed.conforms hended

end Nodes

/-! ## `SceneStore` -/

/-- What `runSchema` makes of a file of version zero with triggers, when it is run again on what was
left after `k` statements. -/
def runAgain (db : NodesDb) (k : ℕ) : NodesDb × Bool :=
  runSchema (db.interrupted (schemaStatements 0 true) k)

/-- The table that `SCHEMA_SCENES_SQL` makes. -/
def newScenes : Table Value := ⟨["home_id", "scene_id", "actions"], ["home_id", "scene_id"], []⟩

/-- The second run succeeds, the tables are current, the scenes are as they were, and every trigger
is there, as one of the central scene. -/
structure TriggersSurvive (db : NodesDb) (t : Table Value) (k : ℕ) : Prop where
  /-- The second run succeeds. -/
  ok : (runAgain db k).2 = true
  /-- The scenes, if there were any. -/
  scenes : (runAgain db k).1.tables "scenes" = some ((db.tables "scenes").getD newScenes)
  /-- The triggers. -/
  triggers : ∃ t', (runAgain db k).1.tables "scene_triggers" = some t' ∧
    t'.columns = triggerColumns ∧
    ∀ row ∈ t.rows, ∃ row' ∈ t'.rows, Row.get row' "source" = some (.int 0) ∧
      ∀ column ∈ t.columns, Row.get row' column = Row.get row column

/-- The file has `scene_triggers` in version zero, and says so. -/
structure TriggersAt (db : NodesDb) (t : Table Value) : Prop where
  /-- The version stamped. -/
  stamped : db.userVersion = 0
  /-- The table. -/
  table : db.tables "scene_triggers" = some t
  /-- Its columns. -/
  columns : t.columns = legacyTriggerColumns
  /-- Its primary key. -/
  key : t.key = legacyTriggerKey
  /-- Its rows. -/
  wellFormed : t.WellFormed
  /-- No migration has begun. -/
  legacy : db.tables "scene_triggers_legacy" = none

/-- What `runSchema` works on. -/
structure SceneTables (db : NodesDb) (version : ℕ) (scenes triggers legacy : Option (Table Value)) :
    Prop where
  /-- The version stamped. -/
  version : db.userVersion = version
  /-- The scenes. -/
  scenes : db.tables "scenes" = scenes
  /-- The triggers. -/
  triggers : db.tables "scene_triggers" = triggers
  /-- The triggers that are migrated. -/
  legacy : db.tables "scene_triggers_legacy" = legacy

/-- The table that `MIGRATE_COPY_SQL` fills. -/
def copied (t : Table Value) : Table Value :=
  ⟨triggerColumns, triggerKey, t.rows.map (select copiedTrigger)⟩

/-- `MIGRATE_COPY_SQL` takes every row of the table. -/
structure Copyable (t : Table Value) : Prop where
  /-- The columns that it selects are there. -/
  columns : ∀ column ∈ legacyTriggerColumns, column ∈ t.columns
  /-- The keys of what it selects differ. -/
  keys : ((copied t).rows.map (Table.keyOf triggerKey)).Nodup

section Triggers

variable {db : NodesDb} {version : ℕ} {t : Table Value}
  {scenes triggers legacy : Option (Table Value)}

/-! ### One statement -/

/-- The first statement creates the scenes' table if there is none, and otherwise leaves it. -/
theorem SceneTables.exec_schemaScenes (h : SceneTables db version scenes triggers legacy) :
    ∃ db', db.exec schemaScenes = some db' ∧
      SceneTables db' version (some (scenes.getD newScenes)) triggers legacy := by
  cases scenes with
  | some s =>
    refine ⟨db, ?_, h⟩
    simp only [Database.exec, schemaScenes, h.scenes]
  | none =>
    refine ⟨db.setTable "scenes" (some newScenes), ?_, h.version, Database.setTable_self .., ?_, ?_⟩
    · simp only [Database.exec, schemaScenes, h.scenes, newScenes]
    · rw [Database.setTable_of_ne _ (by decide), h.triggers]
    · rw [Database.setTable_of_ne _ (by decide), h.legacy]

/-- The rename moves the triggers' table, with its rows, to the legacy name. -/
theorem SceneTables.exec_migrateRename (h : SceneTables db version scenes (some t) none) :
    ∃ db', db.exec migrateRename = some db' ∧ SceneTables db' version scenes none (some t) := by
  refine ⟨(db.setTable "scene_triggers" none).setTable "scene_triggers_legacy" (some t), ?_,
    h.version, ?_, ?_, Database.setTable_self ..⟩
  · simp only [Database.exec, migrateRename, h.triggers, h.legacy]
  · rw [Database.setTable_of_ne _ (by decide), Database.setTable_of_ne _ (by decide), h.scenes]
  · rw [Database.setTable_of_ne _ (by decide), Database.setTable_self]

/-- The rename fails if there is a legacy table already. -/
theorem SceneTables.exec_migrateRename_none {s : Table Value}
    (h : SceneTables db version scenes triggers (some s)) : db.exec migrateRename = none := by
  simp only [Database.exec, migrateRename, h.triggers, h.legacy]

/-- With no table of triggers, the statement that creates it makes an empty one with the new columns
and key. -/
theorem SceneTables.exec_schemaTriggers (h : SceneTables db version scenes none legacy) :
    ∃ db', db.exec schemaTriggers = some db' ∧
      SceneTables db' version scenes (some ⟨triggerColumns, triggerKey, []⟩) legacy := by
  refine ⟨db.setTable "scene_triggers" (some ⟨triggerColumns, triggerKey, []⟩), ?_, h.version, ?_,
    Database.setTable_self .., ?_⟩
  · simp only [Database.exec, schemaTriggers, h.triggers]
  · rw [Database.setTable_of_ne _ (by decide), h.scenes]
  · rw [Database.setTable_of_ne _ (by decide), h.legacy]

/-- The copy fills the empty table with the legacy rows, if these are `Copyable`. -/
theorem SceneTables.exec_migrateCopy
    (h : SceneTables db version scenes (some ⟨triggerColumns, triggerKey, []⟩) (some t))
    (ht : Copyable t) :
    ∃ db', db.exec migrateCopy = some db' ∧
      SceneTables db' version scenes (some (copied t)) (some t) := by
  have hselect : copiedTrigger.map Prod.fst = triggerColumns ∧
      ∀ value ∈ copiedTrigger, value.2.IsIn t.columns := by
    have hlegacy : ∀ value ∈ copiedTrigger, value.2.IsIn legacyTriggerColumns := by decide
    exact ⟨rfl, fun value hvalue => (hlegacy value hvalue).mono ht.columns⟩
  have hrows : (t.rows.map (select copiedTrigger)).foldl Table.insertOrIgnore
      ⟨triggerColumns, triggerKey, []⟩ = copied t := foldl_insertOrIgnore _ _ ht.keys
  refine ⟨db.setTable "scene_triggers" (some (copied t)), ?_, h.version, ?_,
    Database.setTable_self .., ?_⟩
  · simp only [Database.exec, migrateCopy, h.triggers, h.legacy, if_pos hselect, hrows]
  · rw [Database.setTable_of_ne _ (by decide), h.scenes]
  · rw [Database.setTable_of_ne _ (by decide), h.legacy]

/-- The drop takes out the legacy table and leaves the others. -/
theorem SceneTables.exec_migrateDrop (h : SceneTables db version scenes triggers (some t)) :
    ∃ db', db.exec migrateDrop = some db' ∧ SceneTables db' version scenes triggers none := by
  refine ⟨db.setTable "scene_triggers_legacy" none, ?_, h.version, ?_, ?_,
    Database.setTable_self ..⟩
  · simp only [Database.exec, migrateDrop, h.legacy]
  · rw [Database.setTable_of_ne _ (by decide), h.scenes]
  · rw [Database.setTable_of_ne _ (by decide), h.triggers]

/-- The last statement stamps version 1 and leaves the tables. -/
theorem SceneTables.exec_stamp (h : SceneTables db version scenes triggers legacy) :
    ∃ db', db.exec (.setUserVersion 1) = some db' ∧ SceneTables db' 1 scenes triggers legacy :=
  ⟨{ db with userVersion := 1 }, rfl, rfl, h.scenes, h.triggers, h.legacy⟩

/-! ### A whole run -/

/-- What the file has after each of the statements. -/
def stage (scenes : Option (Table Value)) (t : Table Value) (k : ℕ) (db : NodesDb) : Prop :=
  match k with
  | 0 => SceneTables db 0 scenes (some t) none
  | 1 => SceneTables db 0 (some (scenes.getD newScenes)) (some t) none
  | 2 => SceneTables db 0 (some (scenes.getD newScenes)) none (some t)
  | 3 => SceneTables db 0 (some (scenes.getD newScenes)) (some ⟨triggerColumns, triggerKey, []⟩) (some t)
  | 4 => SceneTables db 0 (some (scenes.getD newScenes)) (some (copied t)) (some t)
  | 5 => SceneTables db 0 (some (scenes.getD newScenes)) (some (copied t)) none
  | _ => SceneTables db 1 (some (scenes.getD newScenes)) (some (copied t)) none

/-- At each stage of the migration its next statement succeeds and leads to the next stage. -/
theorem stage_step (ht : Copyable t) (k : ℕ) (hk : k < (schemaStatements 0 true).length)
    (db : NodesDb) (h : stage scenes t k db) :
    ∃ db', db.exec ((schemaStatements 0 true).get ⟨k, hk⟩) = some db' ∧
      stage scenes t (k + 1) db' := by
  have hlt : k < 6 := hk
  interval_cases k
  · exact SceneTables.exec_schemaScenes h
  · exact SceneTables.exec_migrateRename h
  · exact SceneTables.exec_schemaTriggers h
  · exact SceneTables.exec_migrateCopy h ht
  · exact SceneTables.exec_migrateDrop h
  · exact SceneTables.exec_stamp h

/-- After the first `k` statements of the migration the file is at stage `k`. -/
theorem stage_interrupted (h : SceneTables db 0 scenes (some t) none) (ht : Copyable t) {k : ℕ}
    (hk : k ≤ 6) : stage scenes t k (db.interrupted (schemaStatements 0 true) k) := by
  obtain ⟨db', hrun, hstage⟩ := Database.execAll_stages (stage_step ht) h hk
  unfold Database.interrupted
  rwa [hrun]

/-- `runSchema` executes the statements for the version stamped and for whether there is a table of
triggers. -/
theorem SceneTables.runSchema_eq (h : SceneTables db version scenes triggers legacy) :
    runSchema db = db.execAll (schemaStatements version triggers.isSome) := by
  rw [runSchema, h.version, h.triggers]

/-- `runSchema` migrates every table that can be copied. -/
theorem SceneTables.runSchema_copyable (h : SceneTables db 0 scenes (some t) none)
    (ht : Copyable t) :
    ∃ db', runSchema db = (db', true) ∧
      SceneTables db' 1 (some (scenes.getD newScenes)) (some (copied t)) none := by
  obtain ⟨db', hrun, hstage⟩ := Database.execAll_stages (stage_step ht) h (Nat.le_refl 6)
  exact ⟨db', h.runSchema_eq.trans hrun, hstage⟩

/-! ### What is carried over -/

/-- A copied trigger has source 0. -/
theorem get_source (row : Row Value) :
    Row.get (select copiedTrigger row) "source" = some (.int 0) := by
  rw [Row.get_select (by decide)]
  rfl

/-- A copied trigger has what the legacy row had, in each legacy column. -/
theorem get_copied (row : Row Value) {column : String} (h : column ∈ legacyTriggerColumns) :
    Row.get (select copiedTrigger row) column = Row.get row column := by
  have hlookup : List.lookup column copiedTrigger = some (.column column) := by
    simp only [legacyTriggerColumns, List.mem_cons, List.not_mem_nil, or_false] at h
    rcases h with rfl | rfl | rfl | rfl | rfl <;> rfl
  rw [Row.get_select (by decide), hlookup]
  rfl

/-- The key of a copied trigger is the one that it had, and the source. -/
theorem keyOf_copied (row : Row Value) :
    Table.keyOf legacyTriggerKey row =
      (Table.keyOf triggerKey (select copiedTrigger row)).eraseIdx 1 := by
  have hsub : ∀ column ∈ legacyTriggerKey, column ∈ legacyTriggerColumns := by decide
  have hkey : (Table.keyOf triggerKey (select copiedTrigger row)).eraseIdx 1 =
      Table.keyOf legacyTriggerKey (select copiedTrigger row) := rfl
  rw [hkey]
  exact List.map_congr_left fun column hcolumn => (get_copied row (hsub column hcolumn)).symm

/-- The triggers of a version 0 file can be copied: they have the legacy columns, and their legacy
keys already tell them apart under the new key. -/
theorem TriggersAt.copyable (h : TriggersAt db t) : Copyable t := by
  constructor
  · intro column hcolumn
    rwa [h.columns]
  · have hkeys := h.wellFormed.keys
    rw [h.key] at hkeys
    refine List.Nodup.of_map (List.eraseIdx · 1) ?_
    convert hkeys using 1
    simp only [copied, List.map_map]
    exact List.map_congr_left fun row _ => (keyOf_copied row).symm

/-- The copy of a table of triggers can be copied in its turn. -/
theorem Copyable.copied (h : Copyable t) : Copyable (copied t) := by
  have hsub : ∀ column ∈ legacyTriggerColumns, column ∈ triggerColumns := by decide
  refine ⟨hsub, ?_⟩
  have hkey : ∀ row : Row Value, Table.keyOf triggerKey (select copiedTrigger
      (select copiedTrigger row)) = Table.keyOf triggerKey (select copiedTrigger row) := by
    intro row
    refine List.map_congr_left fun column hcolumn => ?_
    have hcases : column = "source" ∨ column ∈ legacyTriggerColumns := by
      revert column
      decide
    rcases hcases with rfl | hlegacy
    · rw [get_source, get_source]
    · exact get_copied _ hlegacy
  have hkeys := h.keys
  simp only [Storage.copied, List.map_map] at hkeys ⊢
  convert hkeys using 1
  exact List.map_congr_left fun row _ => hkey row

/-- Every legacy row has a copy with source 0 and what the row had. -/
theorem mem_copied {row : Row Value} (h : row ∈ t.rows) :
    ∃ row' ∈ (copied t).rows, Row.get row' "source" = some (.int 0) ∧
      ∀ column ∈ legacyTriggerColumns, Row.get row' column = Row.get row column :=
  ⟨_, List.mem_map_of_mem h, get_source row, fun _ hcolumn => get_copied row hcolumn⟩

/-- A second run that copies the triggers, or finds them copied. -/
theorem triggersSurvive_of_copied (h : TriggersAt db t) {db' : NodesDb} {t' : Table Value} {k : ℕ}
    (hrun : runAgain db k = (db', true))
    (htables : SceneTables db' 1 (some ((db.tables "scenes").getD newScenes)) (some t') none)
    (hcolumns : t'.columns = triggerColumns)
    (hrows : ∀ row ∈ (copied t).rows, ∃ row' ∈ t'.rows, Row.get row' "source" = some (.int 0) ∧
      ∀ column ∈ legacyTriggerColumns, Row.get row' column = Row.get row column) :
    TriggersSurvive db t k := by
  refine ⟨by rw [hrun], by rw [hrun]; exact htables.scenes, t', ?_, hcolumns, fun row hrow => ?_⟩
  · rw [hrun]
    exact htables.triggers
  · obtain ⟨row₁, hrow₁, -, hget₁⟩ := mem_copied hrow
    obtain ⟨row₂, hrow₂, hsource, hget₂⟩ := hrows row₁ hrow₁
    refine ⟨row₂, hrow₂, hsource, fun column hcolumn => ?_⟩
    rw [h.columns] at hcolumn
    rw [hget₂ column hcolumn, hget₁ column hcolumn]

/-- With the legacy table there, the rename fails. -/
theorem SceneTables.runSchema_fails {s : Table Value}
    (h : SceneTables db 0 scenes (some s) (some t)) : (runSchema db).2 = false := by
  obtain ⟨db₁, hexec, htables⟩ := h.exec_schemaScenes
  have hstatements : schemaStatements 0 true = [schemaScenes, migrateRename, schemaTriggers,
      migrateCopy, migrateDrop, .setUserVersion 1] := rfl
  rw [h.runSchema_eq, Option.isSome_some, hstatements, Database.execAll_cons hexec,
    Database.execAll_fails htables.exec_migrateRename_none]

/-- A start that finds the legacy table beside the new one, with version 0 stamped, loses the
triggers: its rename fails as the name is taken. -/
theorem not_triggersSurvive_of_legacy {k : ℕ} {s : Table Value}
    (h : SceneTables (db.interrupted (schemaStatements 0 true) k) 0 scenes (some s) (some t)) :
    ¬ TriggersSurvive db t k := by
  intro hsurvive
  exact absurd hsurvive.ok (by rw [runAgain, h.runSchema_fails]; decide)

/-- Between the rename and the new table, the second run finds nothing to migrate. -/
theorem triggersSurvive_renamed_iff {k : ℕ}
    (h : SceneTables (db.interrupted (schemaStatements 0 true) k) 0
      (some ((db.tables "scenes").getD newScenes)) none (some t)) :
    TriggersSurvive db t k ↔ t.rows = [] := by
  -- The second run makes a new table, and takes nothing over from the one that has been renamed.
  obtain ⟨db₁, hexec₁, htables₁⟩ := h.exec_schemaScenes
  obtain ⟨db₂, hexec₂, htables₂⟩ := htables₁.exec_schemaTriggers
  obtain ⟨db₃, hexec₃, htables₃⟩ := htables₂.exec_stamp
  have hrun : runAgain db k = (db₃, true) := by
    unfold runAgain
    rw [h.runSchema_eq]
    have hstatements : schemaStatements 0 (none : Option (Table Value)).isSome =
        [schemaScenes, schemaTriggers, .setUserVersion 1] := rfl
    rw [hstatements, Database.execAll_cons hexec₁, Database.execAll_cons hexec₂,
      Database.execAll_cons hexec₃]
    rfl
  constructor
  -- The table of the second run is empty, so it accounts for no row.
  · intro hsurvive
    obtain ⟨t', ht', -, hrows⟩ := hsurvive.triggers
    rw [hrun, htables₃.triggers] at ht'
    obtain rfl := Option.some.inj ht'
    refine List.eq_nil_iff_forall_not_mem.mpr fun row hrow => ?_
    obtain ⟨row', hrow', -⟩ := hrows row hrow
    exact absurd hrow' (List.not_mem_nil)
  -- Without rows there is nothing to lose.
  · intro hnil
    refine ⟨by rw [hrun], by rw [hrun]; exact htables₃.scenes, ⟨triggerColumns, triggerKey, []⟩,
      by rw [hrun]; exact htables₃.triggers, rfl, ?_⟩
    rw [hnil]
    exact fun _ hrow => absurd hrow (List.not_mem_nil)

/-- `runSchema` can be run again up to the rename and after the drop; right after the rename it
loses the triggers. -/
theorem triggersSurvive_iff (h : TriggersAt db t) {k : ℕ} (hk : k ≤ 6) :
    TriggersSurvive db t k ↔ k ≤ 1 ∨ 5 ≤ k ∨ k = 2 ∧ t.rows = [] := by
  have htables : SceneTables db 0 (db.tables "scenes") (some t) none :=
    ⟨h.stamped, rfl, h.table, h.legacy⟩
  have hstage := stage_interrupted htables h.copyable hk
  -- The columns of a row are copied as they are, and its new one has the default.
  have hsame : ∀ row ∈ (copied t).rows, ∃ row' ∈ (copied t).rows,
      Row.get row' "source" = some (.int 0) ∧
        ∀ column ∈ legacyTriggerColumns, Row.get row' column = Row.get row column := by
    intro row hrow
    obtain ⟨row₀, -, rfl⟩ := List.mem_map.mp hrow
    exact ⟨_, hrow, get_source row₀, fun _ _ => rfl⟩
  -- One case for each statement at which the process may have died.
  interval_cases k
  · obtain ⟨db', hrun, hdone⟩ := SceneTables.runSchema_copyable hstage h.copyable
    exact iff_of_true (triggersSurvive_of_copied h hrun hdone rfl hsame) (by omega)
  · obtain ⟨db', hrun, hdone⟩ := SceneTables.runSchema_copyable hstage h.copyable
    exact iff_of_true (triggersSurvive_of_copied h hrun hdone rfl hsame) (by omega)
  -- The table has been renamed and the new one is not there yet.
  · rw [triggersSurvive_renamed_iff hstage]
    simp
  -- Both tables are there, and the second run cannot rename the new one to the name of the other.
  · exact iff_of_false (not_triggersSurvive_of_legacy hstage) (by omega)
  · exact iff_of_false (not_triggersSurvive_of_legacy hstage) (by omega)
  · -- The triggers are copied a second time.
    obtain ⟨db', hrun, hdone⟩ := SceneTables.runSchema_copyable hstage h.copyable.copied
    exact iff_of_true (triggersSurvive_of_copied h hrun hdone rfl fun _ => mem_copied) (by omega)
  -- The version has been stamped already, and only the scenes' table is made sure of.
  · obtain ⟨db', hexec, hdone⟩ := SceneTables.exec_schemaScenes hstage
    have hrun : runAgain db 6 = (db', true) :=
      (SceneTables.runSchema_eq hstage).trans (Database.execAll_cons hexec [])
    exact iff_of_true (triggersSurvive_of_copied h hrun hdone rfl hsame) (by omega)

end Triggers

/-! ## Both -/

/-- For every file to migrate and every number of statements after which the process dies: what
survives is what `migrateSchema` had not begun or had ended, and what `runSchema` had not yet
renamed or had dropped, and no triggers at all. -/
theorem survives_iff (db : NodesDb) (t : Table Value) (k : ℕ) :
    (∀ version, NodesAt db version t → version < currentSchemaVersion →
      k ≤ (migrateStatements db.userVersion).length →
      (NodesSurvive db t k ↔ k = 0 ∨ k = (migrateStatements db.userVersion).length)) ∧
    (TriggersAt db t → k ≤ (schemaStatements 0 true).length →
      (TriggersSurvive db t k ↔ k ≤ 1 ∨ 5 ≤ k ∨ k = 2 ∧ t.rows = [])) :=
  ⟨fun _ h hold hk => nodesSurvive_iff h hold hk, fun h hk => triggersSurvive_iff h hk⟩

/-- `scene_triggers` in version zero, with a trigger. -/
def legacyTrigger : Table Value where
  columns := legacyTriggerColumns
  key := legacyTriggerKey
  rows := [[("home_id", .text "E2A1B07C"), ("source_node_id", .int 5), ("scene_number", .int 1),
    ("key_attribute", .int 0), ("scene_id", .text "evening")]]

/-- A file with that table. -/
def legacyFile : NodesDb where
  tables name := if name = "scene_triggers" then some legacyTrigger else none
  userVersion := 0

/-- The file holds the nodes' table as version 2 writes it. -/
theorem nodesAt_bothTables : NodesAt bothTables 2 secureNodes where
  known := by decide
  stamped := rfl
  table := rfl
  columns := rfl
  wellFormed := ⟨by simp [Table.Conforms, secureNodes, columnsAt, nodeColumns],
    by simp [secureNodes]⟩

/-- The file holds the triggers' table as version 0 writes it. -/
theorem triggersAt_legacyFile : TriggersAt legacyFile legacyTrigger where
  stamped := rfl
  table := rfl
  columns := rfl
  key := rfl
  wellFormed := ⟨by simp [Table.Conforms, legacyTrigger, legacyTriggerColumns],
    by simp [legacyTrigger]⟩
  legacy := rfl

/-- A file of either kind, with the process dying after the last statement. -/
theorem survive_ended :
    NodesSurvive bothTables secureNodes 18 ∧ TriggersSurvive legacyFile legacyTrigger 6 :=
  ⟨((survives_iff bothTables secureNodes 18).1 2 nodesAt_bothTables (by decide)
      (by decide)).mpr (Or.inr rfl),
    ((survives_iff legacyFile legacyTrigger 6).2 triggersAt_legacyFile (by decide)).mpr
      (Or.inr (Or.inl (by decide)))⟩

/-- After the first statement, `migrateSchema` fails on every later start. After the second,
`runSchema` reports success and leaves no trigger. -/
theorem not_survive_between :
    NodesAt bothTables 2 secureNodes ∧ (migrateAgain bothTables 1).2 = false ∧
      TriggersAt legacyFile legacyTrigger ∧ (runAgain legacyFile 2).2 = true ∧
      ((runAgain legacyFile 2).1.tables "scene_triggers").map Table.rows = some [] ∧
      ¬ NodesSurvive bothTables secureNodes 1 ∧ ¬ TriggersSurvive legacyFile legacyTrigger 2 := by
  refine ⟨nodesAt_bothTables, by decide +kernel, triggersAt_legacyFile, by decide +kernel,
    by decide +kernel, fun h => ?_, fun h => ?_⟩
  · have hcases := (nodesSurvive_iff nodesAt_bothTables (by decide) (by decide)).mp h
    exact absurd hcases (by decide)
  · have hcases := (triggersSurvive_iff triggersAt_legacyFile (by decide)).mp h
    exact absurd hcases (by simp [legacyTrigger])

end Zwaved.Storage
