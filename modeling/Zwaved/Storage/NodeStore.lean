import Mathlib.Data.String.Basic
import Zwaved.Bytes
import Zwaved.Sql.KeyedTable

/-!
# Tables of the nodes of a network

`node_metadata` and `node_values` have the same primary key: the network, as a text, the node, and a
name. What such a table is for is a map that knows of networks, nodes and names, and nothing of rows
and texts (`Networks`). `Holds` says that a table stands for such a map. The statements that write do
to the table what `put` and `erase` do to the map, and those that read give what the map has.

The text of a network is a parameter: the two modules do not write it alike.
-/

namespace Zwaved.Storage

open Sql

/-- What becomes of a statement that writes. -/
inductive WriteOutcome
  /-- It is not prepared. -/
  | unprepared
  /-- It is prepared, and fails. -/
  | failed
  /-- It is done. -/
  | done
  deriving DecidableEq, Repr

/-- What becomes of a statement that reads. -/
structure ReadOutcome where
  /-- It is prepared. -/
  prepared : Bool := true
  /-- How many rows it steps over before it fails, if it does. -/
  failsAfter : Option ℕ := none
  deriving DecidableEq, Repr

/-- The rows that it steps over. -/
def ReadOutcome.steps {α : Type} (outcome : ReadOutcome) (rows : List α) : List α :=
  if outcome.prepared then
    match outcome.failsAfter with
    | none => rows
    | some count => rows.take count
  else []

/-- What a reading steps over before it fails are the first of the rows. -/
theorem ReadOutcome.steps_isPrefix {α : Type} (outcome : ReadOutcome) (rows : List α) :
    outcome.steps rows <+: rows := by
  unfold ReadOutcome.steps
  split
  · split
    · exact List.prefix_refl rows
    · exact List.take_prefix _ rows
  · exact List.nil_prefix

/-- A row of such a table. -/
structure NamedRow (α : Type) where
  /-- `home_id`. -/
  homeId : String
  /-- `node_id`. -/
  nodeId : NodeId
  /-- The name. -/
  name : String
  /-- The other columns. -/
  content : α
  deriving DecidableEq, Repr

/-- The primary key. -/
def NamedRow.key {α : Type} (row : NamedRow α) : String × NodeId × String :=
  (row.homeId, row.nodeId, row.name)

/-- Such a table. -/
abbrev NodeTable (α : Type) := KeyedTable (NamedRow.key (α := α))

/-- What there is under a network, a node and a name. -/
abbrev Networks (α : Type) := Bytes → NodeId → String → Option α

section Networks

variable {α : Type} (networks : Networks α) (homeId : Bytes) (nodeId : NodeId)

/-- Something is put under a name. -/
def Networks.put (name : String) (content : α) : Networks α := fun otherHome otherNode otherName =>
  if otherHome = homeId ∧ otherNode = nodeId ∧ otherName = name then some content
  else networks otherHome otherNode otherName

/-- Names of a node are erased. -/
def Networks.erase (names : String → Bool) : Networks α := fun otherHome otherNode otherName =>
  if otherHome = homeId ∧ otherNode = nodeId ∧ names otherName then none
  else networks otherHome otherNode otherName

end Networks

section Holds

variable {α : Type} {text : Bytes → String} {table : NodeTable α} {networks : Networks α}
  {homeId : Bytes} {nodeId : NodeId} {name : String} {content : α}

/-- The table stands for the map. -/
def Holds (text : Bytes → String) (table : NodeTable α) (networks : Networks α) : Prop :=
  ∀ homeId nodeId name, table.find (text homeId, nodeId, name) =
    (networks homeId nodeId name).map (NamedRow.mk (text homeId) nodeId name)

/-- An empty table holds no value. -/
theorem Holds.empty : Holds text (.empty : NodeTable α) fun _ _ _ => none := fun _ _ _ => rfl

/-- An upsert and a replacement alike hold what the map has when the value is put there. -/
theorem Holds.insert (h : Holds text table networks) (htext : Function.Injective text)
    {write : KeyedTable.Write (NamedRow α) (String × NodeId × String)}
    (hwrite : write = .upsert ⟨text homeId, nodeId, name, content⟩ ∨
      write = .replace ⟨text homeId, nodeId, name, content⟩) :
    Holds text (table.exec write) (networks.put homeId nodeId name content) := by
  intro otherHome otherNode otherName
  have hleaves : write.leaves NamedRow.key (text otherHome, otherNode, otherName) =
      if otherHome = homeId ∧ otherNode = nodeId ∧ otherName = name then
        some (some ⟨text homeId, nodeId, name, content⟩) else none := by
    have hkey : (⟨text homeId, nodeId, name, content⟩ : NamedRow α).key =
        (text otherHome, otherNode, otherName) ↔
        otherHome = homeId ∧ otherNode = nodeId ∧ otherName = name := by
      simp only [NamedRow.key, Prod.mk.injEq, htext.eq_iff]
      tauto
    rcases hwrite with rfl | rfl <;> simp only [KeyedTable.Write.leaves, hkey]
  rw [KeyedTable.find_exec, hleaves, Networks.put]
  split
  · next hsame =>
    obtain ⟨rfl, rfl, rfl⟩ := hsame
    rfl
  · exact h otherHome otherNode otherName

/-- Deleting the rows of a node with certain names holds what the map has when they are erased. -/
theorem Holds.delete (h : Holds text table networks) (htext : Function.Injective text)
    (homeId : Bytes) (nodeId : NodeId) (names : String → Bool) :
    Holds text (table.delete fun key =>
        decide (key.1 = text homeId ∧ key.2.1 = nodeId) && names key.2.2)
      (networks.erase homeId nodeId names) := by
  intro otherHome otherNode otherName
  rw [KeyedTable.find_delete, Networks.erase]
  simp only [htext.eq_iff, Bool.and_eq_true, decide_eq_true_eq, and_assoc]
  split
  · rfl
  · exact h otherHome otherNode otherName

/-- `SELECT … WHERE home_id = ? AND node_id = ? ORDER BY` the name. -/
def rowsOf (table : NodeTable α) (home : String) (nodeId : NodeId) : List (NamedRow α) :=
  table.select (fun row => row.homeId = home ∧ row.nodeId = nodeId) fun a b => a.name ≤ b.name

/-- The rows of a node come in the order of their names, none twice. -/
theorem rowsOf_ascends (table : NodeTable α) (home : String) (nodeId : NodeId) :
    (rowsOf table home nodeId).Pairwise fun a b => a.name < b.name := by
  refine KeyedTable.select_ascends fun a b ha hb hname => ?_
  obtain ⟨hhomeA, hnodeA⟩ := of_decide_eq_true ha
  obtain ⟨hhomeB, hnodeB⟩ := of_decide_eq_true hb
  rw [NamedRow.key, NamedRow.key, hhomeA, hhomeB, hnodeA, hnodeB, hname]

/-- A row of a home is found exactly when the map has its content under its node and its name. -/
theorem Holds.find_iff (h : Holds text table networks) {row : NamedRow α}
    (hhome : row.homeId = text homeId) :
    table.find row.key = some row ↔ networks homeId row.nodeId row.name = some row.content := by
  obtain ⟨rowHome, rowNode, rowName, rowContent⟩ := row
  dsimp only at hhome
  subst hhome
  rw [NamedRow.key, h homeId rowNode rowName]
  cases networks homeId rowNode rowName <;> simp

/-- The rows of a node are those that the map has of it under the home. -/
theorem Holds.mem_rowsOf (h : Holds text table networks) {row : NamedRow α} :
    row ∈ rowsOf table (text homeId) nodeId ↔
      row.homeId = text homeId ∧ row.nodeId = nodeId ∧
        networks homeId nodeId row.name = some row.content := by
  rw [rowsOf, KeyedTable.mem_select, decide_eq_true_iff]
  constructor
  · rintro ⟨hfind, hhome, rfl⟩
    exact ⟨hhome, rfl, (h.find_iff hhome).mp hfind⟩
  · rintro ⟨hhome, rfl, hcontent⟩
    exact ⟨(h.find_iff hhome).mpr hcontent, hhome, rfl⟩

end Holds

end Zwaved.Storage
