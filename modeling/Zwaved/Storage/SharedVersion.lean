import Zwaved.Storage.Schema

/-!
# Two schemas, one version

`NodeRegistry` and `SceneStore` open the same file, and each takes `user_version` for its own. What
one of them stamps tells the other that there is nothing left to do, or that there is a table where
there is none. `intact_iff` says for which files this does no harm: those that have `nodes`, and
`scene_triggers` in its current form. A fresh file is not among them, in either order.
-/

namespace Zwaved.Storage

open Sql

/-- Which of the two opens the file first. -/
inductive Order
  /-- `NodeRegistry`, and then `SceneStore`. -/
  | nodesFirst
  /-- `SceneStore`, and then `NodeRegistry`. -/
  | scenesFirst
  deriving DecidableEq, Repr

/-- Both open the file, with what each reports. -/
def openBoth (db : NodesDb) : Order → NodesDb × Bool × Bool
  | .nodesFirst =>
    let (db, nodesOk) := migrateSchema db
    let (db, scenesOk) := runSchema db
    (db, nodesOk, scenesOk)
  | .scenesFirst =>
    let (db, scenesOk) := runSchema db
    let (db, nodesOk) := migrateSchema db
    (db, nodesOk, scenesOk)

/-- After both have opened the file, both report success, both tables are current, and no row is
lost. -/
structure Intact (db : NodesDb) (order : Order) : Prop where
  /-- Both report success. -/
  ok : (openBoth db order).2 = (true, true)
  /-- `nodes` has every column that is selected. -/
  nodes : ∃ t, (openBoth db order).1.tables "nodes" = some t ∧
    (∀ column ∈ schemaColumns, column ∈ t.columns) ∧
    ∀ old, db.tables "nodes" = some old → 1 ≤ db.userVersion → Carried old t currentColumn
  /-- `scene_triggers` has its source. -/
  triggers : ∃ t, (openBoth db order).1.tables "scene_triggers" = some t ∧ "source" ∈ t.columns ∧
    ∀ old, db.tables "scene_triggers" = some old → Carried old t id

/-- A file as the two have left it: each has its table in one of its versions or not at all. The
version is the larger of the two, since `NodeRegistry` stamps what it has migrated to and
`SceneStore` stamps nothing but zero over. -/
structure Produced (db : NodesDb) (nodes triggers : Option (ℕ × Table Value)) : Prop where
  /-- The table `nodes`. -/
  nodesTable : db.tables "nodes" = nodes.map Prod.snd
  /-- It is in one of its versions. -/
  nodesShape : ∀ version t, nodes = some (version, t) →
    (1 ≤ version ∧ version ≤ currentSchemaVersion) ∧ t.columns = columnsAt version ∧ t.WellFormed
  /-- The table `scene_triggers`. -/
  triggersTable : db.tables "scene_triggers" = triggers.map Prod.snd
  /-- It is in one of its versions. -/
  triggersShape : ∀ version t, triggers = some (version, t) →
    (version = 0 ∧ t.columns = legacyTriggerColumns ∨ version = 1 ∧ t.columns = triggerColumns) ∧
      t.WellFormed
  /-- The version. -/
  stamped : db.userVersion = max (nodes.elim 0 Prod.fst) (triggers.elim 0 Prod.fst)

/-- On a file with a version, `SceneStore` leaves everything but its scenes. -/
theorem runSchema_stamped {db : NodesDb} (h : db.userVersion ≥ schemaVersion) :
    ∃ db', runSchema db = (db', true) ∧ db'.userVersion = db.userVersion ∧
      ∀ name ≠ "scenes", db'.tables name = db.tables name := by
  have hstatements : ∀ legacy, schemaStatements db.userVersion legacy = [schemaScenes] := by
    intro legacy
    rw [schemaStatements, if_pos h]
  unfold runSchema
  rw [hstatements]
  cases hscenes : db.tables "scenes" with
  | some t =>
    have hexec : db.exec schemaScenes = some db := by
      simp only [Database.exec, schemaScenes, hscenes]
    exact ⟨db, Database.execAll_cons hexec [], rfl, fun _ _ => rfl⟩
  | none =>
    have hexec : db.exec schemaScenes = some (db.setTable "scenes"
        (some ⟨["home_id", "scene_id", "actions"], ["home_id", "scene_id"], []⟩)) := by
      simp only [Database.exec, schemaScenes, hscenes]
    exact ⟨_, Database.execAll_cons hexec [], rfl,
      fun name hname => Database.setTable_of_ne _ hname _⟩

section Opened

variable {db : NodesDb} {nodes triggers : Option (ℕ × Table Value)}

/-- Once `NodeRegistry` has stamped its version, `SceneStore` leaves `scene_triggers` as it is. -/
theorem triggers_of_stamped (h : (migrateSchema db).1.userVersion = 5)
    (hothers : ∀ name ≠ "nodes", (migrateSchema db).1.tables name = db.tables name) :
    (openBoth db .nodesFirst).1.tables "scene_triggers" = db.tables "scene_triggers" := by
  obtain ⟨db', hrun, -, htables⟩ := @runSchema_stamped (migrateSchema db).1
    (by rw [h]; decide)
  simp only [openBoth, hrun]
  rw [htables _ (by decide), hothers _ (by decide)]

/-- On a file without a version, `NodeRegistry` makes `nodes` anew and stamps its version. -/
theorem migrateSchema_fresh (h : db.userVersion = 0) :
    (migrateSchema db).1.userVersion = 5 ∧
      ∀ name ≠ "nodes", (migrateSchema db).1.tables name = db.tables name := by
  have hstatements : migrateStatements db.userVersion =
      [.dropTableIfExists "nodes", .createTable "nodes" schemaColumns nodeKey,
        .setUserVersion 5] := by
    rw [h]
    rfl
  have hcreate : (db.setTable "nodes" none).exec (.createTable "nodes" schemaColumns nodeKey) =
      some (db.setTable "nodes" (some ⟨schemaColumns, nodeKey, []⟩)) := by
    simp only [Database.exec, Database.setTable_self, Database.setTable_setTable]
  unfold migrateSchema
  rw [hstatements, Database.execAll_cons rfl, Database.execAll_cons hcreate,
    Database.execAll_cons rfl]
  exact ⟨rfl, fun name hname => Database.setTable_of_ne _ hname _⟩

/-- A file with a first version and no `nodes` has nothing to alter. -/
theorem migrateSchema_fails (hversion : db.userVersion = 1) (h : db.tables "nodes" = none) :
    (migrateSchema db).2 = false := by
  unfold migrateSchema
  rw [hversion, migrateStatements_eq (by decide) (by decide)]
  have hexec : db.exec (.addColumn "nodes" "security_scheme" (.int 0)) = none := by
    simp only [Database.exec, h]
  have hfails := Database.execAll_fails hexec
    (Database.addColumnStatements "nodes" (identityColumns ++ capsColumns) ++ [.setUserVersion 5])
  exact congrArg Prod.snd hfails

/-- If `NodeRegistry` stamps its version first, `scene_triggers` must be current before. -/
theorem source_of_intact (h : Produced db nodes triggers) (hintact : Intact db .nodesFirst)
    (hstamped : (migrateSchema db).1.userVersion = 5)
    (hothers : ∀ name ≠ "nodes", (migrateSchema db).1.tables name = db.tables name) :
    ∃ t, triggers = some (1, t) := by
  obtain ⟨t, ht, hsource, -⟩ := hintact.triggers
  rw [triggers_of_stamped hstamped hothers, h.triggersTable] at ht
  obtain ⟨⟨version, t'⟩, htriggers, rfl⟩ := Option.map_eq_some_iff.mp ht
  obtain ⟨⟨rfl, hcolumns⟩ | ⟨rfl, hcolumns⟩, -⟩ := h.triggersShape version t' htriggers
  · rw [hcolumns] at hsource
    exact absurd hsource (by decide)
  · exact ⟨t', htriggers⟩

/-- Without `nodes`, `NodeRegistry` either fails or stamps its version over triggers that are not
current. -/
theorem not_intact_of_no_nodes (h : Produced db none triggers) : ¬ Intact db .nodesFirst := by
  intro hintact
  have hstamped := h.stamped
  rcases Nat.eq_zero_or_pos (triggers.elim 0 Prod.fst) with hzero | hpos
  · have hversion : db.userVersion = 0 := by simpa [hzero] using hstamped
    obtain ⟨hfive, hothers⟩ := migrateSchema_fresh hversion
    obtain ⟨t, rfl⟩ := source_of_intact h hintact hfive hothers
    exact absurd hzero Nat.one_ne_zero
  · have hversion : db.userVersion = 1 := by
      cases triggers with
      | none => exact absurd hpos (Nat.lt_irrefl 0)
      | some trigger =>
        obtain ⟨version, t⟩ := trigger
        obtain ⟨⟨rfl, -⟩ | ⟨rfl, -⟩, -⟩ := h.triggersShape version t rfl
        · exact absurd hpos (Nat.lt_irrefl 0)
        · exact hstamped
    have hok := congrArg Prod.fst hintact.ok
    have hfails := migrateSchema_fails hversion h.nodesTable
    rw [show (openBoth db .nodesFirst).2.1 = (migrateSchema db).2 from rfl, hfails] at hok
    cases hok

/-- The version is that of `nodes`, if there is one. -/
theorem Produced.nodesAt {version : ℕ} {t : Table Value}
    (h : Produced db (some (version, t)) triggers) : NodesAt db version t := by
  obtain ⟨hknown, hcolumns, hwell⟩ := h.nodesShape version t rfl
  have hle : triggers.elim 0 Prod.fst ≤ version := by
    cases triggers with
    | none => exact Nat.zero_le _
    | some trigger =>
      obtain ⟨version', t'⟩ := trigger
      obtain ⟨⟨rfl, -⟩ | ⟨rfl, -⟩, -⟩ := h.triggersShape version' t' rfl
      · exact Nat.zero_le _
      · exact hknown.1
  exact ⟨hknown, h.stamped.trans (Nat.max_eq_left hle), h.nodesTable, hcolumns, hwell⟩

/-- With both tables, and `scene_triggers` current, neither order does any harm. -/
theorem intact_of_current {version : ℕ} {t t' : Table Value}
    (h : Produced db (some (version, t)) (some (1, t'))) (order : Order) : Intact db order := by
  have hat := h.nodesAt
  obtain ⟨hknown, hstamped, ht, hcolumns, hwell⟩ := h.nodesAt
  have ht' : db.tables "scene_triggers" = some t' := h.triggersTable
  have hsource : "source" ∈ t'.columns := by
    obtain ⟨⟨hzero, -⟩ | ⟨-, hcolumns'⟩, -⟩ := h.triggersShape 1 t' rfl
    · cases hzero
    · rw [hcolumns']
      decide
  -- In both orders the triggers stay, and the nodes are migrated.
  have hintact : ∀ db', openBoth db order = (db', true, true) →
      db'.tables "scene_triggers" = db.tables "scene_triggers" →
      (∃ t₁, db'.tables "nodes" = some t₁ ∧ t₁.columns = schemaColumns ∧
        Carried t t₁ currentColumn) → Intact db order := by
    rintro db' hopen htriggers ⟨t₁, ht₁, hcolumns₁, hcarried⟩
    refine ⟨by rw [hopen], ⟨t₁, by rw [hopen, ht₁], ?_, ?_⟩, ⟨t', ?_, hsource, ?_⟩⟩
    · intro column hcolumn
      rwa [hcolumns₁]
    · intro old hold _
      obtain rfl : t = old := Option.some.inj (ht.symm.trans hold)
      exact hcarried
    · rw [hopen, htriggers, ht']
    · intro old hold
      obtain rfl : t' = old := Option.some.inj (ht'.symm.trans hold)
      exact Carried.refl t'
  cases order with
  | nodesFirst =>
    have hmigrated := migrateSchema_nodesAt hat
    obtain ⟨db', hrun, -, htables⟩ := @runSchema_stamped (migrateSchema db).1
      (by rw [hmigrated.stamped]; decide)
    refine hintact db' ?_ ?_ ?_
    · simp only [openBoth, hrun, hmigrated.ok]
    · rw [htables _ (by decide), hmigrated.others _ (by decide)]
    · rw [htables _ (by decide)]
      exact hmigrated.table
  | scenesFirst =>
    obtain ⟨db', hrun, hversion, htables⟩ := runSchema_stamped
      (show db.userVersion ≥ schemaVersion by rw [hstamped]; exact hknown.1)
    have hat' : NodesAt db' version t :=
      ⟨hknown, hversion.trans hstamped, (htables _ (by decide)).trans ht, hcolumns, hwell⟩
    have hmigrated := migrateSchema_nodesAt hat'
    refine hintact (migrateSchema db').1 ?_ ?_ hmigrated.table
    · simp only [openBoth, hrun, hmigrated.ok]
    · rw [hmigrated.others _ (by decide), htables _ (by decide)]

end Opened

/-- Of the files that the two can have left, both orders leave exactly those intact that have
`nodes` and have `scene_triggers` in its current form. -/
theorem intact_iff {db : NodesDb} {nodes triggers : Option (ℕ × Table Value)}
    (h : Produced db nodes triggers) :
    (∀ order, Intact db order) ↔ nodes ≠ none ∧ ∃ t, triggers = some (1, t) := by
  constructor
  · intro hintact
    have hnodes : nodes ≠ none := by
      rintro rfl
      exact not_intact_of_no_nodes h (hintact .nodesFirst)
    obtain ⟨⟨version, t⟩, rfl⟩ := Option.ne_none_iff_exists'.mp hnodes
    have hmigrated := migrateSchema_nodesAt h.nodesAt
    exact ⟨hnodes, source_of_intact h (hintact .nodesFirst) hmigrated.stamped hmigrated.others⟩
  · rintro ⟨hnodes, t', rfl⟩ order
    obtain ⟨⟨version, t⟩, rfl⟩ := Option.ne_none_iff_exists'.mp hnodes
    exact intact_of_current h order

/-- `nodes` in its second version, with a secure node. -/
def secureNodes : Table Value where
  columns := columnsAt 2
  key := nodeKey
  rows := [[("home_id", .text "E2A1B07C"), ("node_id", .int 5), ("basic_type", .int 4),
    ("generic_type", .int 16), ("specific_type", .int 1), ("command_classes", .blob [0x98]),
    ("secure", .int 1)]]

/-- `scene_triggers` with a trigger. -/
def oneTrigger : Table Value where
  columns := triggerColumns
  key := triggerKey
  rows := [[("home_id", .text "E2A1B07C"), ("source", .int 0), ("source_node_id", .int 5),
    ("scene_number", .int 1), ("key_attribute", .int 0), ("scene_id", .text "evening")]]

/-- A file with both tables. It has the shape of those that the two modules write, but no run of the
two from a fresh file leaves it: whichever comes second takes the version of the first for its own,
and makes no table or finds none to alter. -/
def bothTables : NodesDb where
  tables name :=
    if name = "nodes" then some secureNodes
    else if name = "scene_triggers" then some oneTrigger
    else none
  userVersion := 2

/-- Such a file is left intact in both orders. -/
theorem bothTables_intact :
    Produced bothTables (some (2, secureNodes)) (some (1, oneTrigger)) ∧
      ∀ order, Intact bothTables order := by
  have hproduced : Produced bothTables (some (2, secureNodes)) (some (1, oneTrigger)) := by
    refine ⟨rfl, ?_, rfl, ?_, rfl⟩
    · rintro version t h
      obtain ⟨rfl, rfl⟩ := Prod.mk.inj (Option.some.inj h)
      exact ⟨by decide, rfl, by simp [Table.Conforms, secureNodes, columnsAt, nodeColumns],
        by simp [secureNodes]⟩
    · rintro version t h
      obtain ⟨rfl, rfl⟩ := Prod.mk.inj (Option.some.inj h)
      exact ⟨Or.inr ⟨rfl, rfl⟩, by simp [Table.Conforms, oneTrigger, triggerColumns],
        by simp [oneTrigger]⟩
  exact ⟨hproduced, (intact_iff hproduced).mpr ⟨by simp, oneTrigger, rfl⟩⟩

/-- A file that neither has opened. -/
def fresh : NodesDb where
  tables _ := none
  userVersion := 0

/-- On a fresh file, `SceneStore` finds the version of `NodeRegistry` and makes no triggers, and
`NodeRegistry` finds the version of `SceneStore` and no table to alter. -/
theorem fresh_not_intact :
    Produced fresh none none ∧
      ((openBoth fresh .nodesFirst).1.tables "scene_triggers").isNone ∧
      (openBoth fresh .scenesFirst).2 = (false, true) ∧
      ¬ ∀ db nodes triggers, Produced db nodes triggers → ∀ order, Intact db order := by
  have hfresh : Produced fresh none none := by
    refine ⟨rfl, ?_, rfl, ?_, rfl⟩ <;>
    · intro _ _ h
      cases h
  refine ⟨hfresh, by decide +kernel, by decide +kernel, fun h => ?_⟩
  have hok := (h fresh none none hfresh .scenesFirst).ok
  exact absurd hok (by decide +kernel)

end Zwaved.Storage
