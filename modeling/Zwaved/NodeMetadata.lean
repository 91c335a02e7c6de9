import Zwaved.Reactive.Run
import Zwaved.Scene.Replay
import Zwaved.Storage.NodeStore

/-!
# The metadata of the nodes

`NodeMetadata.cpp` keeps texts that a user has given to the nodes, such as a name or a room, in the
table `node_metadata`, under the network that is bound. What it is for is `Metadata`: for each
network a text under each key of a node, where an empty text is none. `metadata_reads` says that the
store is just that, whatever is called and whichever statements fail, and that nobody who follows
NodeMetadataChanged misses a change.
-/

namespace Zwaved.NodeMetadata

open Reactive Storage Sql
open SceneStore (bindText)

/-- `NodeMetadata::Store`: the table, and the connection to it. -/
structure Store where
  /-- `node_metadata`. -/
  table : NodeTable String := .empty
  /-- `db.valid()`. -/
  dbValid : Bool := true
  /-- `currentHomeId`. -/
  currentHomeId : Option String := none

/-- `Entry`. -/
structure Entry where
  /-- `key`. -/
  key : String
  /-- `value`. -/
  value : String
  deriving DecidableEq, Repr

/-- `NodeMetadataChanged`. -/
structure NodeMetadataChanged where
  /-- `nodeId`. -/
  nodeId : NodeId
  deriving DecidableEq, Repr

/-- What is done to the store, and what becomes of its statement. -/
inductive Op
  /-- The constructor, on the same file; the database may fail to open. -/
  | reopen (dbValid : Bool)
  /-- `setHomeId`. -/
  | setHomeId (homeIdBytes : Bytes)
  /-- `set`. -/
  | set (nodeId : NodeId) (key value : String) (outcome : WriteOutcome)
  /-- `remove`. -/
  | remove (nodeId : NodeId) (key : String) (outcome : WriteOutcome)
  deriving DecidableEq, Repr

namespace Store

variable (store : Store)

/-- The home that the calls scope to, while there is a database. -/
def home : Option String := if store.dbValid then store.currentHomeId else none

/-- What `set` and `remove` have in common: a statement on the home, and the event if it could be
prepared. -/
def write (nodeId : NodeId) (statement : String → NodeTable String → NodeTable String)
    (outcome : WriteOutcome) : Store × List NodeMetadataChanged :=
  match store.home, outcome with
  | none, _ | some _, .unprepared => (store, [])
  | some _, .failed => (store, [{ nodeId }])
  | some home, .done => ({ store with table := statement home store.table }, [{ nodeId }])

/-- `remove`. -/
def remove (nodeId : NodeId) (key : String) (outcome : WriteOutcome) :
    Store × List NodeMetadataChanged :=
  store.write nodeId (fun home table => table.delete fun other =>
    decide (other.1 = home ∧ other.2.1 = nodeId) && decide (other.2.2 = bindText key)) outcome

/-- `set`; an empty value removes the key. -/
def set (nodeId : NodeId) (key value : String) (outcome : WriteOutcome) :
    Store × List NodeMetadataChanged :=
  if value = "" then store.remove nodeId key outcome
  else store.write nodeId (fun home table =>
    table.exec (.upsert ⟨home, nodeId, bindText key, bindText value⟩)) outcome

/-- `get`. -/
def get (nodeId : NodeId) (key : String) (outcome : ReadOutcome) : Option String :=
  match store.home with
  | none => none
  | some home =>
    ((outcome.steps (store.table.find (home, nodeId, bindText key)).toList).head?).map
      NamedRow.content

/-- `getAll`. -/
def getAll (nodeId : NodeId) (outcome : ReadOutcome) : List Entry :=
  match store.home with
  | none => []
  | some home =>
    (outcome.steps (rowsOf store.table home nodeId)).map fun row =>
      { key := row.name, value := row.content }

/-- `nodesWith`. -/
def nodesWith (key value : String) (outcome : ReadOutcome) : List NodeId :=
  match store.home with
  | none => []
  | some home =>
    (outcome.steps (store.table.select
      (fun row => row.homeId = home ∧ row.name = bindText key ∧ row.content = bindText value)
      fun a b => a.nodeId.toNat ≤ b.nodeId.toNat)).map NamedRow.nodeId

/-- One call. -/
def step : Op → Store × List NodeMetadataChanged
  | .reopen dbValid => ({ table := store.table, dbValid }, [])
  | .setHomeId homeIdBytes => ({ store with currentHomeId := some (formatHomeId homeIdBytes) }, [])
  | .set nodeId key value outcome => store.set nodeId key value outcome
  | .remove nodeId key outcome => store.remove nodeId key outcome

end Store

/-! ## What it is for -/

/-- The metadata of all networks, and the one that is bound. -/
structure Metadata where
  /-- There is a database. -/
  valid : Bool := true
  /-- The network that is bound. -/
  network : Option Bytes := none
  /-- The texts. -/
  texts : Networks String := fun _ _ _ => none

namespace Metadata

variable (m : Metadata)

/-- The network that is served. -/
def bound : Option Bytes := if m.valid then m.network else none

/-- A key of a node is given a text; an empty one is none. -/
def assign (nodeId : NodeId) (key value : String) (outcome : WriteOutcome) : Metadata :=
  match m.bound, outcome with
  | some homeId, .done =>
    { m with
      texts := if value = "" then m.texts.erase homeId nodeId fun other => decide (other = key)
        else m.texts.put homeId nodeId key (bindText value) }
  | _, _ => m

/-- One call. -/
def step : Op → Metadata
  | .reopen valid => { m with valid, network := none }
  | .setHomeId homeId => { m with network := some homeId }
  | .set nodeId key value outcome => m.assign nodeId (bindText key) value outcome
  | .remove nodeId key outcome => m.assign nodeId (bindText key) "" outcome

/-- The text under a key of a node, in the network that is served. -/
def text (nodeId : NodeId) (key : String) : Option String :=
  m.bound.bind fun homeId => m.texts homeId nodeId key

end Metadata

/-- The store stands for the metadata. -/
structure Represents (store : Store) (m : Metadata) : Prop where
  /-- The connection. -/
  valid : store.dbValid = m.valid
  /-- The network that is bound. -/
  network : store.currentHomeId = m.network.map formatHomeId
  /-- The rows. -/
  holds : Holds formatHomeId store.table m.texts

section Represents

variable {store : Store} {m : Metadata}

/-- The home that the store works under is the text of the bound one. -/
theorem Represents.home (h : Represents store m) : store.home = m.bound.map formatHomeId := by
  rw [Store.home, Metadata.bound, h.valid]
  split
  · exact h.network
  · rfl

/-- A statement that does to the table what the assignment does to the map keeps the store its
mirror, with or without a home and whether it succeeds. -/
theorem Represents.write (h : Represents store m) {nodeId : NodeId} {key value : String}
    {statement : String → NodeTable String → NodeTable String}
    (hholds : ∀ homeId, Holds formatHomeId (statement (formatHomeId homeId) store.table)
      (if value = "" then m.texts.erase homeId nodeId fun other => decide (other = key)
        else m.texts.put homeId nodeId key (bindText value))) (outcome : WriteOutcome) :
    Represents (store.write nodeId statement outcome).1 (m.assign nodeId key value outcome) := by
  have hhome := h.home
  unfold Store.write Metadata.assign
  rw [hhome]
  cases m.bound with
  | none => cases outcome <;> exact h
  | some homeId =>
    cases outcome with
    | unprepared | failed => exact h
    | done => exact ⟨h.valid, h.network, hholds homeId⟩

/-- Removing a key unassigns it under the bound home, if the statement succeeds, and otherwise
leaves the map. -/
theorem Represents.remove (h : Represents store m) (nodeId : NodeId) (key : String)
    (outcome : WriteOutcome) : Represents (store.remove nodeId key outcome).1
      (m.assign nodeId (bindText key) "" outcome) := by
  refine h.write (fun homeId => ?_) outcome
  rw [if_pos rfl]
  exact h.holds.delete Registry.formatHomeId_injective homeId nodeId fun other =>
    decide (other = bindText key)

/-- Setting a key assigns it under the bound home, if the statement succeeds. An empty value
unassigns it, as `set` removes then. -/
theorem Represents.set (h : Represents store m) (nodeId : NodeId) (key value : String)
    (outcome : WriteOutcome) : Represents (store.set nodeId key value outcome).1
      (m.assign nodeId (bindText key) value outcome) := by
  unfold Store.set
  split
  · next hempty =>
    rw [hempty]
    exact h.remove nodeId key outcome
  · next hne =>
    refine h.write (fun homeId => ?_) outcome
    rw [if_neg hne]
    exact h.holds.insert Registry.formatHomeId_injective (Or.inl rfl)

/-- Every call keeps the store the mirror of the metadata. -/
theorem Represents.step (h : Represents store m) (op : Op) :
    Represents (store.step op).1 (m.step op) := by
  cases op with
  | reopen valid => exact ⟨rfl, rfl, h.holds⟩
  | setHomeId homeId => exact ⟨h.valid, rfl, h.holds⟩
  | set nodeId key value outcome => exact h.set nodeId key value outcome
  | remove nodeId key outcome => exact h.remove nodeId key outcome

/-- After any calls the store mirrors the metadata that they make. -/
theorem represents_run (ops : List Op) :
    Represents (exec Store.step {} ops) (ops.foldl Metadata.step {}) := by
  induction ops using List.reverseRecOn with
  | nil => exact ⟨rfl, rfl, Holds.empty⟩
  | append_singleton ops op ih =>
    rw [exec_concat, List.foldl_concat]
    exact ih.step op

/-! ## What is read -/

/-- `get` gives the text that is assigned to the key. -/
theorem Represents.get (h : Represents store m) (nodeId : NodeId) (key : String) :
    store.get nodeId key {} = m.text nodeId (bindText key) := by
  rw [Store.get, h.home, Metadata.text]
  cases m.bound with
  | none => rfl
  | some homeId =>
    dsimp only [Option.map_some, Option.bind_some]
    rw [h.holds homeId nodeId (bindText key)]
    cases m.texts homeId nodeId (bindText key) <;> rfl

/-- `getAll` gives the entries that are assigned, and no others. -/
theorem Represents.mem_getAll (h : Represents store m) {nodeId : NodeId} {entry : Entry} :
    entry ∈ store.getAll nodeId {} ↔ m.text nodeId entry.key = some entry.value := by
  rw [Store.getAll, h.home, Metadata.text]
  cases m.bound with
  | none => simp
  | some homeId =>
    simp only [Option.map_some, Option.bind_some, ReadOutcome.steps, if_true, List.mem_map]
    constructor
    · rintro ⟨row, hrow, rfl⟩
      exact (h.holds.mem_rowsOf.mp hrow).2.2
    · intro htext
      exact ⟨⟨formatHomeId homeId, nodeId, entry.key, entry.value⟩,
        h.holds.mem_rowsOf.mpr ⟨rfl, rfl, htext⟩, rfl⟩

/-- The entries that `getAll` gives are in the order of their keys, none twice. -/
theorem getAll_ascends (store : Store) (nodeId : NodeId) (outcome : ReadOutcome) :
    (store.getAll nodeId outcome).Pairwise fun a b => a.key < b.key := by
  rw [Store.getAll]
  split
  · exact List.Pairwise.nil
  · next home _ =>
    exact List.pairwise_map.mpr ((rowsOf_ascends store.table home nodeId).sublist
      (outcome.steps_isPrefix _).sublist)

/-- A reading that fails gives the first of the entries. -/
theorem getAll_isPrefix (store : Store) (nodeId : NodeId) (outcome : ReadOutcome) :
    store.getAll nodeId outcome <+: store.getAll nodeId {} := by
  rw [Store.getAll, Store.getAll]
  split
  · exact List.prefix_refl []
  · exact (outcome.steps_isPrefix _).map _

/-- `nodesWith` gives the nodes to whose key the value is assigned, and no others. -/
theorem Represents.mem_nodesWith (h : Represents store m) {key value : String} {nodeId : NodeId} :
    nodeId ∈ store.nodesWith key value {} ↔
      m.text nodeId (bindText key) = some (bindText value) := by
  rw [Store.nodesWith, h.home, Metadata.text]
  cases m.bound with
  | none => simp
  | some homeId =>
    simp only [Option.map_some, Option.bind_some, ReadOutcome.steps, if_true, List.mem_map,
      KeyedTable.mem_select, decide_eq_true_eq]
    constructor
    · rintro ⟨row, ⟨hfind, hhome, hkey, hvalue⟩, rfl⟩
      rw [← hkey, ← hvalue]
      exact (h.holds.find_iff hhome).mp hfind
    · intro htext
      exact ⟨⟨formatHomeId homeId, nodeId, bindText key, bindText value⟩,
        ⟨(h.holds.find_iff rfl).mpr htext, rfl, rfl, rfl⟩, rfl⟩

/-- The nodes that `nodesWith` gives are in order, none twice. -/
theorem nodesWith_ascends (store : Store) (key value : String) (outcome : ReadOutcome) :
    (store.nodesWith key value outcome).Pairwise fun a b => a < b := by
  rw [Store.nodesWith]
  split
  · exact List.Pairwise.nil
  · next home _ =>
    refine List.pairwise_map.mpr (List.Pairwise.sublist (outcome.steps_isPrefix _).sublist ?_)
    have hsorted : (store.table.select
        (fun row => row.homeId = home ∧ row.name = bindText key ∧ row.content = bindText value)
        fun a b => a.nodeId.toNat ≤ b.nodeId.toNat).Pairwise
          fun a b => a.nodeId.toNat < b.nodeId.toNat := by
      refine KeyedTable.select_ascends fun a b ha hb hnode => ?_
      obtain ⟨hhomeA, hnameA, -⟩ := of_decide_eq_true ha
      obtain ⟨hhomeB, hnameB, -⟩ := of_decide_eq_true hb
      rw [NamedRow.key, NamedRow.key, hhomeA, hhomeB, hnameA, hnameB, UInt8.toNat_inj.mp hnode]
    exact hsorted.imp UInt8.lt_iff_toNat_lt.mpr

/-- A reading that fails gives the first of the nodes. -/
theorem nodesWith_isPrefix (store : Store) (key value : String) (outcome : ReadOutcome) :
    store.nodesWith key value outcome <+: store.nodesWith key value {} := by
  rw [Store.nodesWith, Store.nodesWith]
  split
  · exact List.prefix_refl []
  · exact (outcome.steps_isPrefix _).map _

end Represents

/-! ## Who follows the event -/

/-- `set` or `remove`. -/
def Op.Assigns : Op → Prop
  | .set .. | .remove .. => True
  | .reopen _ | .setHomeId _ => False

section Announced

variable {m : Metadata} {nodeId other : NodeId} {key value : String} {outcome : WriteOutcome}

/-- An assignment does nothing, or erases or puts the text under the bound home. -/
theorem Metadata.assign_cases : m.assign nodeId key value outcome = m ∨
    ∃ homeId, m.bound = some homeId ∧ m.assign nodeId key value outcome =
      { m with
        texts := if value = "" then m.texts.erase homeId nodeId fun other => decide (other = key)
          else m.texts.put homeId nodeId key (bindText value) } := by
  unfold assign
  cases m.bound with
  | none => exact Or.inl (by cases outcome <;> rfl)
  | some homeId =>
    cases outcome with
    | unprepared | failed => exact Or.inl rfl
    | done => exact Or.inr ⟨homeId, rfl, rfl⟩

/-- An assignment leaves the texts of the other nodes. -/
theorem Metadata.assign_other (hne : other ≠ nodeId) (otherKey : String) :
    (m.assign nodeId key value outcome).text other otherKey = m.text other otherKey := by
  rcases m.assign_cases with hsame | ⟨homeId, hbound, hassign⟩
  · rw [hsame]
  · have hbound' : ∀ texts, ({ m with texts } : Metadata).bound = some homeId := fun _ => hbound
    rw [hassign, text, text, hbound', hbound, Option.bind_some, Option.bind_some]
    split <;> exact if_neg fun h => hne h.2.1

/-- If the store does not announce a change of the node, the assignment does nothing. -/
theorem Represents.assign_of_silent {store : Store} (h : Represents store m)
    {statement : String → NodeTable String → NodeTable String}
    (hsilent : ⟨nodeId⟩ ∉ (store.write nodeId statement outcome).2) :
    m.assign nodeId key value outcome = m := by
  unfold Store.write at hsilent
  rw [h.home] at hsilent
  unfold Metadata.assign
  cases hbound : m.bound with
  | none => rfl
  | some homeId =>
    rw [hbound] at hsilent
    cases outcome with
    | unprepared | failed => rfl
    | done => exact absurd (List.mem_singleton_self _) hsilent

/-- A call that does not announce a node leaves its texts. -/
theorem Represents.text_of_silent {store : Store} (h : Represents store m) {op : Op}
    (hop : op.Assigns) (hsilent : ⟨other⟩ ∉ (store.step op).2) (otherKey : String) :
    (m.step op).text other otherKey = m.text other otherKey := by
  cases op with
  | reopen valid | setHomeId homeId => cases hop
  | set nodeId key value outcome =>
    by_cases hnode : other = nodeId
    · subst hnode
      have hassign : m.assign other (bindText key) value outcome = m := by
        rw [Store.step, Store.set] at hsilent
        split at hsilent <;> exact h.assign_of_silent hsilent
      rw [Metadata.step, hassign]
    · exact Metadata.assign_other hnode otherKey
  | remove nodeId key outcome =>
    by_cases hnode : other = nodeId
    · subst hnode
      have hassign : m.assign other (bindText key) "" outcome = m :=
        h.assign_of_silent hsilent
      rw [Metadata.step, hassign]
    · exact Metadata.assign_other hnode otherKey

end Announced

/-- While the store assigns, whoever was not told of a node reads of it what was read before. -/
theorem text_of_unannounced (ops : List Op) {calls : List Op} (hcalls : ∀ op ∈ calls, op.Assigns)
    {nodeId : NodeId}
    (hsilent : ⟨nodeId⟩ ∉ emitted Store.step (exec Store.step {} ops) calls) (key : String) :
    ((ops ++ calls).foldl Metadata.step {}).text nodeId key =
      (ops.foldl Metadata.step {}).text nodeId key := by
  induction calls using List.reverseRecOn with
  | nil => rw [List.append_nil]
  | append_singleton calls op ih =>
    rw [emitted_concat, List.mem_append, not_or, ← exec_append] at hsilent
    rw [← List.append_assoc, List.foldl_concat,
      (represents_run (ops ++ calls)).text_of_silent
        (hcalls op (List.mem_append_right calls (List.mem_singleton_self op))) hsilent.2 key]
    exact ih (fun op hop => hcalls op (List.mem_append_left _ hop)) hsilent.1

/-- After any calls, with the database opened again in between as often as it may and whichever
statements fail, the store reads as the metadata are: `get` gives the text of a key, `getAll` the
keys of a node with their texts in the order of the keys, `nodesWith` the nodes with a text in the
order of the nodes, and each gives the first of these if it fails. While it assigns, a node that
is not announced reads as before. -/
theorem metadata_reads (ops : List Op) :
    let store := exec Store.step {} ops
    let m := ops.foldl Metadata.step {}
    (∀ nodeId key, store.get nodeId key {} = m.text nodeId (bindText key)) ∧
    (∀ nodeId,
      (∀ entry, entry ∈ store.getAll nodeId {} ↔ m.text nodeId entry.key = some entry.value) ∧
      (store.getAll nodeId {}).Pairwise (fun a b => a.key < b.key) ∧
      ∀ outcome, store.getAll nodeId outcome <+: store.getAll nodeId {}) ∧
    (∀ key value,
      (∀ nodeId, nodeId ∈ store.nodesWith key value {} ↔
        m.text nodeId (bindText key) = some (bindText value)) ∧
      (store.nodesWith key value {}).Pairwise (fun a b => a < b) ∧
      ∀ outcome, store.nodesWith key value outcome <+: store.nodesWith key value {}) ∧
    ∀ calls, (∀ op ∈ calls, op.Assigns) → ∀ nodeId,
      ⟨nodeId⟩ ∉ emitted Store.step store calls →
        ∀ key, (exec Store.step store calls).get nodeId key {} = store.get nodeId key {} := by
  intro store m
  -- After any operations the table stands for the map, and every read is one of the map.
  have h : Represents store m := represents_run ops
  refine ⟨h.get, fun nodeId => ⟨fun entry => h.mem_getAll, getAll_ascends store nodeId {},
    getAll_isPrefix store nodeId⟩, fun key value => ⟨fun nodeId => h.mem_nodesWith,
    nodesWith_ascends store key value {}, nodesWith_isPrefix store key value⟩, ?_⟩
  -- The calls that follow have announced nothing of the node, so its texts in the map are as they
  -- were.
  intro calls hcalls nodeId hsilent key
  have hafter : Represents (exec Store.step store calls) ((ops ++ calls).foldl Metadata.step {}) := by
    rw [← exec_append]
    exact represents_run (ops ++ calls)
  rw [hafter.get, h.get]
  exact text_of_unannounced ops hcalls hsilent (bindText key)

end Zwaved.NodeMetadata
