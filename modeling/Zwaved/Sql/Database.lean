import Mathlib.Data.List.Nodup
import Mathlib.Logic.Function.Basic
import Mathlib.Tactic.Common

/-!
# Statements on a database file

A database file is its tables, by name, and one number, the `user_version`. A table has columns, the
columns of its primary key, and rows. `exec` is one statement of the data definition language, as
SQLite documents it: it either changes the file or fails and leaves it. `execAll` runs statements
one after another and stops at the first that fails; what came before stays, since each statement
commits by itself.

`execAll_addColumns` is what a chain of `ADD COLUMN`s does, and `execAll_keeps` the rule for what
every statement of a script leaves alone, however far the script gets.
-/

namespace Sql

variable {ν : Type*}

/-- A row: its columns with their values. -/
abbrev Row (ν : Type*) := List (String × ν)

/-- The value of a column. -/
def Row.get (row : Row ν) (column : String) : Option ν := List.lookup column row

/-- A table. -/
structure Table (ν : Type*) where
  /-- The names of the columns. -/
  columns : List String
  /-- The columns of the primary key. -/
  key : List String
  /-- The rows. -/
  rows : List (Row ν)

/-- A database file. -/
structure Database (ν : Type*) where
  /-- The tables, by name. -/
  tables : String → Option (Table ν)
  /-- `PRAGMA user_version`. -/
  userVersion : ℕ

/-- Where a value that is inserted comes from. -/
inductive Source (ν : Type*)
  /-- A literal. -/
  | value (v : ν)
  /-- A column of the row that is selected. -/
  | column (name : String)

/-- A statement. -/
inductive Statement (ν : Type*)
  /-- `CREATE TABLE IF NOT EXISTS`. -/
  | createTable (name : String) (columns key : List String)
  /-- `DROP TABLE`. -/
  | dropTable (name : String)
  /-- `DROP TABLE IF EXISTS`. -/
  | dropTableIfExists (name : String)
  /-- `ALTER TABLE … RENAME TO`. -/
  | renameTable (name newName : String)
  /-- `ALTER TABLE … ADD COLUMN … DEFAULT`. -/
  | addColumn (table column : String) (default : ν)
  /-- `ALTER TABLE … RENAME COLUMN`. -/
  | renameColumn (table column newColumn : String)
  /-- `INSERT OR IGNORE INTO … SELECT … FROM`, which names every column of the table. -/
  | insertOrIgnoreSelect (table : String) (values : List (String × Source ν)) (source : String)
  /-- `PRAGMA user_version =`. -/
  | setUserVersion (version : ℕ)

/-! ## Tables -/

namespace Table

/-- The key of a row. -/
def keyOf (key : List String) (row : Row ν) : List (Option ν) := key.map row.get

/-- Every row has a value for every column of the table. -/
def Conforms (t : Table ν) : Prop := ∀ row ∈ t.rows, row.map Prod.fst = t.columns

/-- The rows have the columns of the table, and no two have the same key. -/
structure WellFormed (t : Table ν) : Prop where
  /-- Every row has a value for every column. -/
  conforms : t.Conforms
  /-- The keys differ. -/
  keys : (t.rows.map (keyOf t.key)).Nodup

/-- `ADD COLUMN`s: every row gets the defaults. -/
def addColumns (t : Table ν) (columns : Row ν) : Table ν :=
  { t with
    columns := t.columns ++ columns.map Prod.fst
    rows := t.rows.map (· ++ columns) }

/-- A column under its new name, and any other under its own. -/
def renamed (column newColumn name : String) : String := if name = column then newColumn else name

/-- `RENAME COLUMN`. -/
def renameColumn (t : Table ν) (column newColumn : String) : Table ν where
  columns := t.columns.map (renamed column newColumn)
  key := t.key.map (renamed column newColumn)
  rows := t.rows.map (List.map (Prod.map (renamed column newColumn) id))

/-- `INSERT OR IGNORE` of one row: nothing if its key is taken. -/
def insertOrIgnore [DecidableEq ν] (t : Table ν) (row : Row ν) : Table ν :=
  if keyOf t.key row ∈ t.rows.map (keyOf t.key) then t else { t with rows := t.rows ++ [row] }

end Table

/-- What a row gives for a source. -/
def Source.eval (row : Row ν) : Source ν → Option ν
  | .value v => some v
  | .column name => row.get name

/-- The source is a literal or a column that there is. -/
def Source.IsIn (columns : List String) : Source ν → Prop
  | .value _ => True
  | .column name => name ∈ columns

/-- A source that can be read from some columns can be read from more. -/
theorem Source.IsIn.mono {source : Source ν} {columns columns' : List String}
    (h : source.IsIn columns) (hsub : ∀ column ∈ columns, column ∈ columns') :
    source.IsIn columns' := by
  cases source with
  | value v => trivial
  | column name => exact hsub name h

instance (columns : List String) : DecidablePred (Source.IsIn (ν := ν) columns)
  | .value _ => inferInstanceAs (Decidable True)
  | .column name => inferInstanceAs (Decidable (name ∈ columns))

/-- What is selected of a row. -/
def select (values : List (String × Source ν)) (row : Row ν) : Row ν :=
  values.filterMap fun value => (value.2.eval row).map (Prod.mk value.1)

/-! ## Statements -/

namespace Database

/-- The file with one table put in or taken out. -/
def setTable (db : Database ν) (name : String) (table : Option (Table ν)) : Database ν :=
  { db with tables := Function.update db.tables name table }

/-- The table that is put in is there. -/
@[simp] theorem setTable_self (db : Database ν) (name : String) (table : Option (Table ν)) :
    (db.setTable name table).tables name = table := Function.update_self ..

/-- Putting a table in leaves those of other names. -/
theorem setTable_of_ne (db : Database ν) {name other : String} (h : other ≠ name)
    (table : Option (Table ν)) : (db.setTable name table).tables other = db.tables other :=
  Function.update_of_ne h ..

/-- Putting a table in leaves the version stamped. -/
@[simp] theorem userVersion_setTable (db : Database ν) (name : String)
    (table : Option (Table ν)) : (db.setTable name table).userVersion = db.userVersion := rfl

/-- Of two tables put in under one name the second is there. -/
@[simp] theorem setTable_setTable (db : Database ν) (name : String) (t t' : Option (Table ν)) :
    (db.setTable name t).setTable name t' = db.setTable name t' := by
  simp [setTable]

variable [DecidableEq ν]

/-- One statement; `none` if it fails, and then the file is as it was. -/
def exec (db : Database ν) : Statement ν → Option (Database ν)
  | .createTable name columns key =>
    match db.tables name with
    | some _ => some db
    | none => some (db.setTable name (some ⟨columns, key, []⟩))
  | .dropTable name =>
    match db.tables name with
    | some _ => some (db.setTable name none)
    | none => none
  | .dropTableIfExists name => some (db.setTable name none)
  | .renameTable name newName =>
    match db.tables name, db.tables newName with
    | some t, none => some ((db.setTable name none).setTable newName (some t))
    | _, _ => none
  | .addColumn table column default =>
    match db.tables table with
    | some t =>
      if column ∈ t.columns then none
      else some (db.setTable table (some (t.addColumns [(column, default)])))
    | none => none
  | .renameColumn table column newColumn =>
    match db.tables table with
    | some t =>
      if column ∉ t.columns ∨ newColumn ∈ t.columns then none
      else some (db.setTable table (some (t.renameColumn column newColumn)))
    | none => none
  | .insertOrIgnoreSelect table values source =>
    match db.tables table, db.tables source with
    | some t, some s =>
      if values.map Prod.fst = t.columns ∧ ∀ value ∈ values, value.2.IsIn s.columns then
        some (db.setTable table
          (some ((s.rows.map (select values)).foldl Table.insertOrIgnore t)))
      else none
    | _, _ => none
  | .setUserVersion version => some { db with userVersion := version }

/-- Statements one after another, up to the first that fails; and whether none did. -/
def execAll (db : Database ν) : List (Statement ν) → Database ν × Bool
  | [] => (db, true)
  | statement :: statements =>
    match db.exec statement with
    | some db => db.execAll statements
    | none => (db, false)

/-- The file that is left when the process dies after `k` statements. -/
def interrupted (db : Database ν) (statements : List (Statement ν)) (k : ℕ) : Database ν :=
  (db.execAll (statements.take k)).1

variable {db db' : Database ν} {statement : Statement ν} {statements : List (Statement ν)}

/-- When a statement succeeds, the rest is executed on what it leaves. -/
theorem execAll_cons (h : db.exec statement = some db') (statements : List (Statement ν)) :
    db.execAll (statement :: statements) = db'.execAll statements := by
  simp only [execAll, h]

/-- When a statement fails, the rest is not executed and the file is as it was. -/
theorem execAll_fails (h : db.exec statement = none) (statements : List (Statement ν)) :
    db.execAll (statement :: statements) = (db, false) := by
  simp only [execAll, h]

/-- When all statements succeed, those behind them are executed on what they leave. -/
theorem execAll_append (h : db.execAll statements = (db', true)) (more : List (Statement ν)) :
    db.execAll (statements ++ more) = db'.execAll more := by
  induction statements generalizing db with
  | nil =>
    obtain rfl : db = db' := (Prod.mk.inj h).1
    rfl
  | cons statement statements ih =>
    simp only [execAll] at h
    cases hexec : db.exec statement with
    | none =>
      rw [hexec] at h
      cases (Prod.mk.inj h).2
    | some db₁ =>
      rw [hexec] at h
      rw [List.cons_append, execAll_cons hexec, ih h]

/-- What every statement of a script keeps holds however far the script gets. -/
theorem execAll_keeps {P : Database ν → Prop}
    (hkeeps : ∀ statement ∈ statements, ∀ db db', P db → db.exec statement = some db' → P db')
    (h : P db) : P (db.execAll statements).1 := by
  induction statements generalizing db with
  | nil => exact h
  | cons statement statements ih =>
    simp only [execAll]
    cases hexec : db.exec statement with
    | none => exact h
    | some db' =>
      refine ih (fun s hs => hkeeps s (List.mem_cons_of_mem _ hs)) ?_
      exact hkeeps statement List.mem_cons_self db db' h hexec

/-- A script whose statements lead from one stage to the next gets to every stage. -/
theorem execAll_stages {stage : ℕ → Database ν → Prop}
    (hstep : ∀ k (hk : k < statements.length) db, stage k db →
      ∃ db', db.exec (statements.get ⟨k, hk⟩) = some db' ∧ stage (k + 1) db')
    (h : stage 0 db) {k : ℕ} (hk : k ≤ statements.length) :
    ∃ db', db.execAll (statements.take k) = (db', true) ∧ stage k db' := by
  induction k with
  | zero => exact ⟨db, rfl, h⟩
  | succ k ih =>
    obtain ⟨db₁, hrun, hstage⟩ := ih (Nat.le_of_succ_le hk)
    obtain ⟨db₂, hexec, hstage'⟩ := hstep k hk db₁ hstage
    refine ⟨db₂, ?_, hstage'⟩
    rw [List.take_succ_eq_append_getElem hk, execAll_append hrun]
    exact execAll_cons hexec []

/-- If a script's first statement brings about what makes it fail, and the others keep that, then it
cannot be run again. -/
theorem exec_interrupted {P : Database ν → Prop} (hexec : db.exec statement = some db')
    (hstart : P db')
    (hkeeps : ∀ statement ∈ statements, ∀ db db', P db → db.exec statement = some db' → P db')
    (hfails : ∀ db, P db → db.exec statement = none) {k : ℕ} (hk : 1 ≤ k) :
    P (db.interrupted (statement :: statements) k) ∧
      (db.interrupted (statement :: statements) k).exec statement = none := by
  obtain ⟨j, rfl⟩ : ∃ j, k = j + 1 := ⟨k - 1, by omega⟩
  have hkept : P (db.interrupted (statement :: statements) (j + 1)) := by
    unfold interrupted
    rw [List.take_succ_cons, execAll_cons hexec]
    exact execAll_keeps (fun s hs => hkeeps s (List.mem_of_mem_take hs)) hstart
  exact ⟨hkept, hfails _ hkept⟩

/-- One `ADD COLUMN` for each of the columns. -/
def addColumnStatements (table : String) (columns : Row ν) : List (Statement ν) :=
  columns.map fun column => .addColumn table column.1 column.2

/-- A chain of `ADD COLUMN`s succeeds and adds its columns one after the other, if all their names
are new. -/
theorem execAll_addColumns {table : String} {t : Table ν} (ht : db.tables table = some t)
    {columns : Row ν} (hnew : (t.columns ++ columns.map Prod.fst).Nodup) :
    db.execAll (addColumnStatements table columns) =
      (db.setTable table (some (t.addColumns columns)), true) := by
  induction columns generalizing db t with
  | nil =>
    have hsame : db.setTable table (some (t.addColumns [])) = db := by
      simp [setTable, Table.addColumns, ← ht]
    rw [hsame]
    rfl
  | cons column columns ih =>
    have hfree : column.1 ∉ t.columns := by
      rw [List.map_cons, List.nodup_append] at hnew
      exact fun hmem => hnew.2.2 column.1 hmem column.1 List.mem_cons_self rfl
    have hexec : db.exec (.addColumn table column.1 column.2) =
        some (db.setTable table (some (t.addColumns [column]))) := by
      simp only [exec, ht, if_neg hfree]
    have hrest : (t.addColumns [column]).addColumns columns = t.addColumns (column :: columns) := by
      simp [Table.addColumns]
    rw [addColumnStatements, List.map_cons, execAll_cons hexec, ← addColumnStatements,
      ih (setTable_self _ _ _) (by simpa [Table.addColumns] using hnew), setTable_setTable, hrest]

/-- A column that is there stays there through `ADD COLUMN`s. -/
theorem mem_columns_of_addColumn {table column column' : String} {default : ν}
    (hmem : ∃ t, db.tables table = some t ∧ column ∈ t.columns)
    (h : db.exec (.addColumn table column' default) = some db') :
    ∃ t, db'.tables table = some t ∧ column ∈ t.columns := by
  obtain ⟨t, ht, hmem⟩ := hmem
  simp only [exec, ht] at h
  split_ifs at h
  obtain rfl := Option.some.inj h
  exact ⟨_, setTable_self _ _ _, List.mem_append_left _ hmem⟩

/-- A column that is not there comes in only under its own name. -/
theorem notMem_columns_of_addColumn {table column column' : String} {default : ν}
    (hne : column ≠ column') (hmem : ∃ t, db.tables table = some t ∧ column ∉ t.columns)
    (h : db.exec (.addColumn table column' default) = some db') :
    ∃ t, db'.tables table = some t ∧ column ∉ t.columns := by
  obtain ⟨t, ht, hmem⟩ := hmem
  simp only [exec, ht] at h
  split_ifs at h
  obtain rfl := Option.some.inj h
  refine ⟨_, setTable_self _ _ _, ?_⟩
  simp [Table.addColumns, hmem, hne]

/-- Adding a column leaves the version stamped. -/
theorem userVersion_of_addColumn {table column : String} {default : ν}
    (h : db.exec (.addColumn table column default) = some db') :
    db'.userVersion = db.userVersion := by
  simp only [exec] at h
  split at h
  · split_ifs at h
    rw [← Option.some.inj h, userVersion_setTable]
  · cases h

end Database

/-! ## Rows that are carried over -/

/-- Every row of a table has one in another that agrees with it on the columns, under their new
names. -/
def Carried (old new : Table ν) (rename : String → String) : Prop :=
  ∀ row ∈ old.rows, ∃ row' ∈ new.rows, ∀ column ∈ old.columns,
    Row.get row' (rename column) = Row.get row column

/-- A table carries its own rows over. -/
theorem Carried.refl (t : Table ν) : Carried t t id :=
  fun row hrow => ⟨row, hrow, fun _ _ => rfl⟩

/-- Only what becomes of the columns that there are matters. -/
theorem Carried.congr {old new : Table ν} {f g : String → String} (h : Carried old new f)
    (heq : ∀ column ∈ old.columns, f column = g column) : Carried old new g := by
  intro row hrow
  obtain ⟨row', hrow', hget⟩ := h row hrow
  exact ⟨row', hrow', fun column hcolumn => heq column hcolumn ▸ hget column hcolumn⟩

/-- Carrying rows over is transitive, and the renamings compose, if the second renames columns that
the first led to. -/
theorem Carried.trans {t t₁ t₂ : Table ν} {f g : String → String} (h : Carried t t₁ f)
    (h' : Carried t₁ t₂ g) (hcolumns : ∀ column ∈ t.columns, f column ∈ t₁.columns) :
    Carried t t₂ (g ∘ f) := by
  intro row hrow
  obtain ⟨row₁, hrow₁, hget⟩ := h row hrow
  obtain ⟨row₂, hrow₂, hget'⟩ := h' row₁ hrow₁
  refine ⟨row₂, hrow₂, fun column hcolumn => ?_⟩
  exact (hget' _ (hcolumns column hcolumn)).trans (hget column hcolumn)

/-- A row has a value for exactly the columns that it has. -/
theorem Row.isSome_get (row : Row ν) (column : String) :
    (row.get column).isSome ↔ column ∈ row.map Prod.fst := by
  simp [Row.get, List.lookup_isSome_iff]

/-- What is added to a row changes no column that it has. -/
theorem Row.get_append (row more : Row ν) {column : String} (h : column ∈ row.map Prod.fst) :
    Row.get (row ++ more) column = row.get column := by
  obtain ⟨v, hv⟩ := Option.isSome_iff_exists.mp ((Row.isSome_get row column).mpr h)
  unfold Row.get at hv ⊢
  rw [List.lookup_append, hv, Option.some_or]

/-- Adding columns carries every row over. The row conforms, so its own columns come before the
added ones and are found first. -/
theorem carried_addColumns {t : Table ν} (h : t.Conforms) (columns : Row ν) :
    Carried t (t.addColumns columns) id := by
  intro row hrow
  refine ⟨row ++ columns, List.mem_map_of_mem hrow, fun column hcolumn => ?_⟩
  exact Row.get_append row columns (by rwa [h row hrow])

/-- A renamed column has its value under the new name, if that name is free. -/
theorem Row.get_rename (row : Row ν) {column newColumn : String}
    (hfree : newColumn ∉ row.map Prod.fst) {name : String} (hname : name ∈ row.map Prod.fst) :
    Row.get (row.map (Prod.map (Table.renamed column newColumn) id))
      (Table.renamed column newColumn name) = row.get name := by
  induction row with
  | nil => cases hname
  | cons head row ih =>
    obtain ⟨other, v⟩ := head
    rw [List.map_cons, List.mem_cons, not_or] at hfree
    -- Two names that are not the new one are renamed to the same only if they are the same.
    have hinj : Table.renamed column newColumn name = Table.renamed column newColumn other ↔
        name = other := by
      refine ⟨fun heq => ?_, fun heq => by rw [heq]⟩
      have hne : name ≠ newColumn := by
        rintro rfl
        rcases List.mem_cons.mp hname with heq' | hmem
        · exact hfree.1 heq'
        · exact hfree.2 hmem
      unfold Table.renamed at heq
      split_ifs at heq with h₁ h₂ h₂
      · rw [h₁, h₂]
      · exact absurd heq hfree.1
      · exact absurd heq hne
      · exact heq
    unfold Row.get at ih ⊢
    rw [List.map_cons, Prod.map_apply, List.lookup_cons, List.lookup_cons]
    by_cases heq : name = other
    · rw [beq_iff_eq.mpr (hinj.mpr heq), beq_iff_eq.mpr heq]
      rfl
    · rw [beq_false_of_ne (mt hinj.mp heq), beq_false_of_ne heq]
      have hmem : name ∈ row.map Prod.fst := (List.mem_cons.mp hname).resolve_left heq
      exact ih hfree.2 hmem

/-- Renaming a column in the table and in its rows keeps the rows conforming. -/
theorem Table.Conforms.renameColumn {t : Table ν} (h : t.Conforms) (column newColumn : String) :
    (t.renameColumn column newColumn).Conforms := by
  intro row' hrow'
  obtain ⟨row, hrow, rfl⟩ := List.mem_map.mp hrow'
  have hconforms := h row hrow
  simp only [Table.renameColumn, ← hconforms, List.map_map]
  rfl

/-- Renaming a column to a free name carries every row over under the renaming. -/
theorem carried_renameColumn {t : Table ν} (h : t.Conforms) {column newColumn : String}
    (hfree : newColumn ∉ t.columns) :
    Carried t (t.renameColumn column newColumn) (Table.renamed column newColumn) := by
  intro row hrow
  have hconforms := h row hrow
  refine ⟨_, List.mem_map_of_mem hrow, fun name hname => ?_⟩
  exact Row.get_rename row (by rwa [hconforms]) (by rwa [hconforms])

/-- A selected row has what its source gives, under the name that it is selected for. -/
theorem Row.get_select {values : List (String × Source ν)} (h : (values.map Prod.fst).Nodup)
    (row : Row ν) (name : String) :
    Row.get (select values row) name = (List.lookup name values).bind (Source.eval row) := by
  induction values with
  | nil => rfl
  | cons value values ih =>
    obtain ⟨other, source⟩ := value
    rw [List.map_cons, List.nodup_cons] at h
    have hrest := ih h.2
    unfold select Row.get at hrest ⊢
    rw [List.lookup_cons, List.filterMap_cons]
    by_cases heq : name = other
    · subst heq
      rw [beq_self_eq_true]
      cases heval : source.eval row with
      | some v => simp [heval]
      | none =>
        -- Nothing is selected for the name, and no other source has it.
        have hnone : List.lookup name values = none := by
          rw [← Option.not_isSome_iff_eq_none, List.lookup_isSome_iff]
          rintro ⟨⟨other, source'⟩, hmem, heq⟩
          obtain rfl : name = other := beq_iff_eq.mp heq
          exact h.1 (List.mem_map.mpr ⟨_, hmem, rfl⟩)
        rw [Option.map_none, hrest, hnone, Option.bind_some, heval, Option.bind_none]
    · rw [beq_false_of_ne heq]
      cases heval : source.eval row with
      | some v => simp only [Option.map_some, List.lookup_cons, beq_false_of_ne heq, hrest]
      | none => simp only [Option.map_none, hrest]

/-- Rows whose keys are free, and differ, all go into the table, in their order. -/
theorem foldl_insertOrIgnore [DecidableEq ν] (rows : List (Row ν)) (t : Table ν)
    (h : ((t.rows ++ rows).map (Table.keyOf t.key)).Nodup) :
    rows.foldl Table.insertOrIgnore t = { t with rows := t.rows ++ rows } := by
  induction rows generalizing t with
  | nil => simp
  | cons row rows ih =>
    have hfree : Table.keyOf t.key row ∉ t.rows.map (Table.keyOf t.key) := by
      rw [List.map_append, List.nodup_append, List.map_cons] at h
      exact fun hmem => h.2.2 _ hmem _ List.mem_cons_self rfl
    rw [List.foldl_cons, Table.insertOrIgnore, if_neg hfree, ih _ (by simpa using h)]
    simp

end Sql
