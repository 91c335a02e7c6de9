import Mathlib.Data.List.Sort
import Zwaved.KeyedList

/-!
# Tables with a primary key

A table in which no two rows have the same key, and the statements on it that SQLite documents:
`INSERT … ON CONFLICT DO UPDATE`, which puts a row in the place of the one with its key,
`INSERT OR REPLACE`, which deletes that one and appends the row, a `DELETE` that looks at the key,
and a `SELECT … ORDER BY`. The key of a row finds it (`find`), and that is all that a statement can
tell of a table: `find_exec` says what a key finds after a statement that writes, and `mem_select`
what a statement that reads selects.
-/

namespace Sql

/-- The rows of a table; the keys differ. -/
structure KeyedTable {ρ κ : Type*} (key : ρ → κ) where
  /-- The rows. -/
  rows : List ρ
  /-- No two rows have the same key. -/
  distinct : (rows.map key).Nodup

namespace KeyedTable

variable {ρ κ : Type*} [DecidableEq κ] {key : ρ → κ} (t : KeyedTable key)

/-- No rows. -/
def empty : KeyedTable key := ⟨[], List.nodup_nil⟩

/-- The row of a key. -/
def find (k : κ) : Option ρ := t.rows.find? fun row => key row = k

/-- `DELETE … WHERE`, on columns of the key. -/
def delete (p : κ → Bool) : KeyedTable key where
  rows := t.rows.filter fun row => !p (key row)
  distinct := t.distinct.sublist (List.filter_sublist.map key)

/-- `INSERT … ON CONFLICT DO UPDATE` of the columns that are not in the key. -/
def upsert (row : ρ) : KeyedTable key where
  rows := KeyedList.place key row t.rows
  distinct := by
    obtain ⟨rows, hdistinct⟩ := t
    dsimp only
    induction rows with
    | nil => exact List.nodup_singleton _
    | cons other rows ih =>
      rw [List.map_cons, List.nodup_cons] at hdistinct
      rw [KeyedList.place]
      split
      · next hother =>
        rw [List.map_cons, List.nodup_cons, ← hother]
        exact hdistinct
      · next hother =>
        rw [List.map_cons, List.nodup_cons, KeyedList.mem_keys_place]
        exact ⟨not_or.mpr ⟨hother, hdistinct.1⟩, ih hdistinct.2⟩

/-- `INSERT OR REPLACE`. -/
def replace (row : ρ) : KeyedTable key where
  rows := (t.delete fun k => decide (k = key row)).rows ++ [row]
  distinct := by
    rw [List.map_append, List.map_singleton, List.nodup_append]
    refine ⟨(t.delete _).distinct, List.nodup_singleton _, ?_⟩
    rintro k hk _ hrow rfl
    obtain ⟨other, hother, rfl⟩ := List.mem_map.mp hk
    have hkept := (List.mem_filter.mp hother).2
    simp [List.mem_singleton.mp hrow] at hkept

/-- `SELECT … WHERE … ORDER BY`. -/
def select (p : ρ → Bool) (before : ρ → ρ → Prop) [DecidableRel before] : List ρ :=
  (t.rows.filter p).insertionSort before

variable {t} {k : κ} {row : ρ}

/-! ## What a key finds -/

/-- An empty table has no row. -/
@[simp] theorem find_empty : (empty : KeyedTable key).find k = none := rfl

/-- A row is found under a key exactly when it is in the table and has that key. -/
theorem find_eq_some_iff : t.find k = some row ↔ row ∈ t.rows ∧ key row = k := by
  constructor
  · intro h
    exact ⟨List.mem_of_find?_eq_some h, by simpa using List.find?_some h⟩
  · rintro ⟨hmem, rfl⟩
    have hfound : (t.find (key row)).isSome :=
      List.find?_isSome.mpr ⟨row, hmem, by simp⟩
    obtain ⟨other, hother⟩ := Option.isSome_iff_exists.mp hfound
    have hkey : key other = key row := by simpa using List.find?_some hother
    rw [hother, List.inj_on_of_nodup_map t.distinct (List.mem_of_find?_eq_some hother) hmem
      hkey]

/-- A row has a place in a table that has no other of its key. -/
theorem mem_place_iff {rows : List ρ} (h : (rows.map key).Nodup) {other : ρ} :
    other ∈ KeyedList.place key row rows ↔ other = row ∨ other ∈ rows ∧ key other ≠ key row := by
  -- The row is put in the place of the one with its key, or else behind all others.
  induction rows with
  | nil => simp [KeyedList.place]
  | cons first rows ih =>
    rw [List.map_cons, List.nodup_cons] at h
    rw [KeyedList.place]
    split
    · next hfirst =>
      -- The keys are unique, so no row behind has this one.
      have hrest : ∀ other ∈ rows, key other ≠ key row := fun other hmem heq =>
        h.1 (hfirst ▸ heq ▸ List.mem_map_of_mem hmem)
      simp only [List.mem_cons]
      constructor
      · rintro (rfl | hmem)
        · exact Or.inl rfl
        · exact Or.inr ⟨Or.inr hmem, hrest other hmem⟩
      · rintro (rfl | ⟨rfl | hmem, hne⟩)
        · exact Or.inl rfl
        · exact absurd hfirst hne
        · exact Or.inr hmem
    -- The first row has another key and stays where it is.
    · next hfirst =>
      rw [List.mem_cons, ih h.2, List.mem_cons]
      constructor
      · rintro (rfl | rfl | ⟨hmem, hne⟩)
        · exact Or.inr ⟨Or.inl rfl, hfirst⟩
        · exact Or.inl rfl
        · exact Or.inr ⟨Or.inr hmem, hne⟩
      · rintro (rfl | ⟨rfl | hmem, hne⟩)
        · exact Or.inr (Or.inl rfl)
        · exact Or.inl rfl
        · exact Or.inr (Or.inr ⟨hmem, hne⟩)

/-- An upsert puts its row in and takes out the one with the same key, and no other. -/
theorem mem_upsert {other : ρ} :
    other ∈ (t.upsert row).rows ↔ other = row ∨ other ∈ t.rows ∧ key other ≠ key row :=
  mem_place_iff t.distinct

omit [DecidableEq κ] in

/-- A delete leaves the rows whose keys are not meant. -/
theorem mem_delete {p : κ → Bool} {other : ρ} :
    other ∈ (t.delete p).rows ↔ other ∈ t.rows ∧ p (key other) = false := by
  simp [delete, List.mem_filter]

/-- A replacement puts its row in and takes out the one with the same key, and no other. -/
theorem mem_replace {other : ρ} :
    other ∈ (t.replace row).rows ↔ other = row ∨ other ∈ t.rows ∧ key other ≠ key row := by
  rw [replace, List.mem_append, List.mem_singleton, mem_delete, or_comm, decide_eq_false_iff_not]

/-- A row that is put under its key, where the other rows stay. -/
theorem find_of_mem_iff {t' : KeyedTable key}
    (h : ∀ other, other ∈ t'.rows ↔ other = row ∨ other ∈ t.rows ∧ key other ≠ key row) :
    t'.find k = if key row = k then some row else t.find k := by
  -- The row that is found is the one with the key, the new one if the key is its own.
  ext other
  rw [find_eq_some_iff, h]
  split
  · next hrow =>
    subst hrow
    constructor
    · rintro ⟨rfl | ⟨-, hne⟩, hkey⟩
      · rfl
      · exact absurd hkey hne
    · rintro ⟨⟩
      exact ⟨Or.inl rfl, rfl⟩
  · next hrow =>
    rw [find_eq_some_iff]
    constructor
    · rintro ⟨rfl | ⟨hmem, -⟩, hkey⟩
      · exact absurd hkey hrow
      · exact ⟨hmem, hkey⟩
    · rintro ⟨hmem, hkey⟩
      exact ⟨Or.inr ⟨hmem, fun heq => hrow (heq.symm.trans hkey)⟩, hkey⟩

/-- A delete leaves nothing under the keys that are meant, and the same as before under the
others. -/
theorem find_delete {p : κ → Bool} : (t.delete p).find k = if p k then none else t.find k := by
  ext other
  rw [find_eq_some_iff, mem_delete]
  split
  · next hp =>
    simp only [reduceCtorEq, iff_false]
    rintro ⟨⟨-, hkept⟩, rfl⟩
    rw [hp] at hkept
    cases hkept
  · next hp =>
    rw [find_eq_some_iff]
    constructor
    · rintro ⟨⟨hmem, -⟩, hkey⟩
      exact ⟨hmem, hkey⟩
    · rintro ⟨hmem, rfl⟩
      exact ⟨⟨hmem, Bool.eq_false_iff.mpr hp⟩, rfl⟩

/-! ## Statements -/

/-- A statement that writes. -/
inductive Write (ρ κ : Type*)
  /-- `INSERT … ON CONFLICT DO UPDATE`. -/
  | upsert (row : ρ)
  /-- `INSERT OR REPLACE`. -/
  | replace (row : ρ)
  /-- `DELETE … WHERE`. -/
  | delete (p : κ → Bool)

/-- The table after a statement. -/
def exec (t : KeyedTable key) : Write ρ κ → KeyedTable key
  | .upsert row => t.upsert row
  | .replace row => t.replace row
  | .delete p => t.delete p

/-- What a statement leaves under a key, if it touches it. -/
def Write.leaves (key : ρ → κ) (k : κ) : Write ρ κ → Option (Option ρ)
  | .upsert row | .replace row => if key row = k then some (some row) else none
  | .delete p => if p k then some none else none

/-- A write leaves what it says it does under a key that it concerns, and the same as before under
the others. -/
theorem find_exec (write : Write ρ κ) :
    (t.exec write).find k = (write.leaves key k).getD (t.find k) := by
  cases write with
  | upsert row =>
    rw [exec, find_of_mem_iff fun _ => mem_upsert, Write.leaves]
    split <;> rfl
  | replace row =>
    rw [exec, find_of_mem_iff fun _ => mem_replace, Write.leaves]
    split <;> rfl
  | delete p =>
    rw [exec, find_delete, Write.leaves]
    split <;> rfl

/-! ## Selecting -/

section Select

variable {p : ρ → Bool}

/-- A select gives the rows that match, each of which is the one under its key. -/
theorem mem_select {before : ρ → ρ → Prop} [DecidableRel before] :
    row ∈ t.select p before ↔ t.find (key row) = some row ∧ p row = true := by
  rw [select, List.mem_insertionSort, List.mem_filter, find_eq_some_iff, and_iff_left rfl]

variable {ν : Type*} [LinearOrder ν] {column : ρ → ν}

/-- Ordered by a column that tells the selected rows apart, they ascend. -/
theorem select_ascends (hcolumn : ∀ a b, p a = true → p b = true → column a = column b →
    key a = key b) :
    (t.select p fun a b => column a ≤ column b).Pairwise fun a b => column a < column b := by
  have hsorted : (t.select p fun a b => column a ≤ column b).Pairwise fun a b =>
      column a ≤ column b := List.pairwise_insertionSort _ _
  have hkeys : (t.rows.filter p).Pairwise fun a b => key a ≠ key b :=
    List.pairwise_map.mp (t.distinct.sublist (List.filter_sublist.map key))
  have hdistinct : (t.select p fun a b => column a ≤ column b).Pairwise fun a b =>
      key a ≠ key b :=
    ((List.perm_insertionSort _ _).pairwise_iff Ne.symm).mpr hkeys
  refine (hsorted.and hdistinct).imp_of_mem fun ha hb h => ?_
  have hcolumns := mt (hcolumn _ _ (mem_select.mp ha).2 (mem_select.mp hb).2) h.2
  exact lt_of_le_of_ne h.1 hcolumns

end Select

end KeyedTable

end Sql
