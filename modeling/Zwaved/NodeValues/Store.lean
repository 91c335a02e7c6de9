import Mathlib.Data.List.TakeWhile
import Zwaved.NodeValues.Recorder
import Zwaved.Scene.Replay
import Zwaved.Storage.NodeStore

/-!
# The values that the nodes reported last

`NodeValues.cpp` keeps the values of the nodes in the table `node_values`, under the network that is
bound, and `Recorder.cpp` feeds it from the bus. What the two are for takes only the reports that
were written (`logged`): of each value of a node the last of them in the network that is served.
`recorder_remembers` says that this is what the store reads, over starts of the daemon, changes of
the network and statements that fail.
-/

namespace Zwaved.NodeValues

open Storage Sql Codec
open SceneStore (bindText)

/-! ## The store -/

/-- The table `hexDigits` of `toHex`. -/
def hexDigits (n : ℕ) : Char :=
  Char.ofNat (if n < 10 then '0'.toNat + n else 'a'.toNat + (n - 10))

/-- `toHex`. -/
def toHex (bytes : Bytes) : String := bytes.hexText hexDigits

/-- The text of a home determines its bytes. -/
theorem toHex_injective : Function.Injective toHex := Bytes.hexText_injective (by decide)

/-- `Entry`. -/
structure Entry where
  /-- `valueId`. -/
  valueId : String
  /-- `value`. -/
  value : String
  /-- `updatedAt`. -/
  updatedAt : Int64
  deriving DecidableEq, Repr

/-- `NodeValues::Store`: the table, and the connection to it. A row holds the value and the time. -/
structure Store where
  /-- `node_values`. -/
  table : NodeTable (String × Int64) := .empty
  /-- `db.valid()`. -/
  dbValid : Bool := true
  /-- `homeId`. -/
  homeId : Option String := none

namespace Store

variable (store : Store)

/-- The home that the calls scope to, while there is a database. -/
def home : Option String := if store.dbValid then store.homeId else none

/-- A statement that writes, on the home. -/
def write (statement : String → NodeTable (String × Int64) → NodeTable (String × Int64))
    (outcome : WriteOutcome) : Store :=
  match store.home, outcome with
  | some home, .done => { store with table := statement home store.table }
  | _, _ => store

/-- `setHomeId`. -/
def setHomeId (homeIdBytes : Bytes) : Store := { store with homeId := some (toHex homeIdBytes) }

/-- `record`, with what `clock` gives. -/
def record (nodeId : NodeId) (valueId value : String) (now : Int64) (outcome : WriteOutcome) :
    Store :=
  store.write (fun home table =>
    table.exec (.replace ⟨home, nodeId, bindText valueId, bindText value, now⟩)) outcome

/-- `clearForNode`. -/
def clearForNode (nodeId : NodeId) (outcome : WriteOutcome) : Store :=
  store.write (fun home table => table.delete fun key =>
    decide (key.1 = home ∧ key.2.1 = nodeId) && true) outcome

/-- `get`. -/
def get (nodeId : NodeId) (valueId : String) (outcome : ReadOutcome) : Option Entry :=
  match store.home with
  | none => none
  | some home =>
    ((outcome.steps (store.table.find (home, nodeId, bindText valueId)).toList).head?).map
      fun row => { valueId, value := row.content.1, updatedAt := row.content.2 }

/-- `getAll`. -/
def getAll (nodeId : NodeId) (outcome : ReadOutcome) : List Entry :=
  match store.home with
  | none => []
  | some home =>
    (outcome.steps (rowsOf store.table home nodeId)).map fun row =>
      { valueId := row.name, value := row.content.1, updatedAt := row.content.2 }

end Store

/-! ## The recorder on the bus -/

/-- What the recorder lives through. -/
inductive Event
  /-- The daemon starts on the same file; the database may fail to open. -/
  | start (dbValid : Bool)
  /-- `DongleInfo`. -/
  | dongleInfo (homeId : Bytes)
  /-- A report, the time, and what becomes of its statement. -/
  | report (report : Report) (now : Int64) (outcome : WriteOutcome)
  deriving DecidableEq, Repr

/-- A report in it has come off the wire. -/
def Event.FromWire : Event → Prop
  | .report reading .. => reading.FromWire
  | .start _ | .dongleInfo _ => True

/-- `record` of `Recorder.cpp`: the store, and then NodeValueChanged. -/
def recordEntry (store : Store) (entry : Recorded) (now : Int64) (outcome : WriteOutcome) :
    Store × List Recorded :=
  (store.record entry.nodeId entry.valueId entry.value now outcome, [entry])

/-- One event; there is no result if rendering the report overflows. -/
def step (store : Store) : Event → Option (Store × List Recorded)
  | .start dbValid => some ({ table := store.table, dbValid }, [])
  | .dongleInfo homeId => some (store.setHomeId homeId, [])
  | .report report now outcome => do
    return recordEntry store (← recorded report) now outcome

/-- The events one after the other, with what is published. -/
def listen (store : Store) : List Event → Option (Store × List Recorded)
  | [] => some (store, [])
  | event :: events => do
    let (store, first) ← step store event
    let (store, rest) ← listen store events
    return (store, first ++ rest)

/-! ## What it is for -/

/-- Whether there is a database, and the network that the daemon is on. -/
structure Session where
  /-- There is a database. -/
  valid : Bool := true
  /-- The network. -/
  network : Option Bytes := none

/-- The network that is served. -/
def Session.served (session : Session) : Option Bytes :=
  if session.valid then session.network else none

/-- After an event. -/
def Session.next (session : Session) : Event → Session
  | .start valid => { valid }
  | .dongleInfo homeId => { session with network := some homeId }
  | .report .. => session

/-- A report that was written. -/
structure Logged where
  /-- The network. -/
  homeId : Bytes
  /-- What was recorded. -/
  entry : Recorded
  /-- The time. -/
  updatedAt : Int64

/-- What is written at an event. -/
def Session.log (session : Session) : Event → List Logged
  | .report report now .done =>
    match session.served, recorded report with
    | some homeId, some entry => [⟨homeId, entry, now⟩]
    | _, _ => []
  | _ => []

/-- What is written. -/
def logged (session : Session) : List Event → List Logged
  | [] => []
  | event :: events => session.log event ++ logged (session.next event) events

/-- What an event announces. -/
def Event.announced : Event → Option Recorded
  | .report reading .. => recorded reading
  | .start _ | .dongleInfo _ => none

/-- The last report of a value of a node of a network. -/
def lastReport (log : List Logged) (homeId : Bytes) (nodeId : NodeId) (valueId : String) :
    Option (String × Int64) :=
  (log.reverse.find? fun l =>
    l.homeId = homeId ∧ l.entry.nodeId = nodeId ∧ l.entry.valueId = valueId).map
    fun l => (l.entry.value, l.updatedAt)

/-- One more report is the last one of its value, and leaves the others'. -/
theorem lastReport_concat (log : List Logged) (l : Logged) : lastReport (log ++ [l]) =
    Networks.put (lastReport log) l.homeId l.entry.nodeId l.entry.valueId
      (l.entry.value, l.updatedAt) := by
  funext homeId nodeId valueId
  rw [lastReport, List.reverse_concat, List.find?_cons, Networks.put]
  by_cases hkey : l.homeId = homeId ∧ l.entry.nodeId = nodeId ∧ l.entry.valueId = valueId
  · rw [decide_eq_true hkey, if_pos ⟨hkey.1.symm, hkey.2.1.symm, hkey.2.2.symm⟩]
    rfl
  · rw [decide_eq_false hkey, if_neg fun h => hkey ⟨h.1.symm, h.2.1.symm, h.2.2.symm⟩]
    rfl

/-- What becomes of the values where a statement on the network that is served is to change
them. -/
def Session.write (session : Session) (values : Networks (String × Int64)) (outcome : WriteOutcome)
    (change : Bytes → Networks (String × Int64)) : Networks (String × Int64) :=
  match session.served, outcome with
  | some homeId, .done => change homeId
  | _, _ => values

/-- Logging a report changes the last reports as its statement changes the rows. -/
theorem lastReport_log {session : Session} {log : List Logged} {report : Report} {entry : Recorded}
    {now : Int64} {outcome : WriteOutcome} (hentry : recorded report = some entry) :
    lastReport (log ++ session.log (.report report now outcome)) =
      session.write (lastReport log) outcome fun homeId =>
        Networks.put (lastReport log) homeId entry.nodeId entry.valueId (entry.value, now) := by
  unfold Session.log Session.write
  cases outcome with
  | unprepared | failed => cases session.served <;> exact congrArg lastReport (List.append_nil log)
  | done =>
    dsimp only
    rw [hentry]
    cases session.served with
    | none => exact congrArg lastReport (List.append_nil log)
    | some homeId => exact lastReport_concat log ⟨homeId, entry, now⟩

/-! ## The texts that are recorded -/

/-- A text that the database takes in whole. -/
def Plain (text : String) : Prop := ∀ c ∈ text.toList, c ≠ Char.ofNat 0

instance (text : String) : Decidable (Plain text) :=
  List.decidableBAll (fun c : Char => c ≠ Char.ofNat 0) text.toList

/-- A text without NUL is bound as it is. -/
theorem Plain.bindText_eq {text : String} (h : Plain text) : bindText text = text := by
  have hall : text.toList.takeWhile (fun c => c ≠ Char.ofNat 0) = text.toList :=
    List.takeWhile_eq_self_iff.mpr fun c hc => decide_eq_true (h c hc)
  rw [bindText, hall, String.ofList_toList]

/-- Two texts without NUL make one without. -/
theorem Plain.append {a b : String} (ha : Plain a) (hb : Plain b) : Plain (a ++ b) := by
  intro c hc
  rw [String.toList_append, List.mem_append] at hc
  exact hc.elim (ha c) (hb c)

/-- There is no NUL among digits. -/
theorem ne_nul_of_allDigits {text : List Char} (h : AllDigits text) : ∀ c ∈ text, c ≠ Char.ofNat 0 :=
  fun c hc heq => absurd (heq ▸ h c hc) (by decide)

/-- The text of a number holds no NUL. -/
theorem plain_toString (n : ℕ) : Plain (toString n) := ne_nul_of_allDigits (allDigits_toString n)

/-- There is no NUL in a numeral: it is a sign, digits, a point and digits. -/
theorem ne_nul_of_numeral (n : Numeral) : ∀ c ∈ n.text, c ≠ Char.ofNat 0 := by
  intro c hc
  rw [Numeral.text, List.mem_append, List.mem_append] at hc
  rcases hc with (hsign | hwhole) | hfraction
  · split at hsign
    · rw [List.mem_singleton.mp hsign]
      decide
    · cases hsign
  · exact ne_nul_of_allDigits n.whole_digits c hwhole
  · split at hfraction
    · cases hfraction
    · rcases List.mem_cons.mp hfraction with rfl | hdigit
      · decide
      · exact ne_nul_of_allDigits n.fraction_digits c hdigit

/-- The rendering of a scaled value holds no NUL, so the database takes it in whole. -/
theorem plain_renderScaled {raw : Int32} {precision : UInt8} {text : String}
    (hprecision : precision ≤ 7) (h : renderScaled raw precision = some text) : Plain text := by
  have hplaces : precision.toNat ≤ 18 :=
    Nat.le_trans (UInt8.le_iff_toNat_le.mp hprecision) (by decide)
  rw [renderScaled_eq raw hplaces] at h
  cases h
  rw [Plain, String.toList_ofList]
  exact ne_nul_of_numeral _

/-- The text of a signed value holds no NUL. -/
theorem plain_toString_int (value : Int32) : Plain (toString value.toInt) := by
  have hprecision : (0 : UInt8) ≤ 7 := by decide
  exact plain_renderScaled hprecision (rfl : renderScaled value 0 = _)

/-- What is recorded of a report off the wire is stored as it is. -/
theorem plain_recorded {report : Report} {entry : Recorded} (hwire : report.FromWire)
    (h : recorded report = some entry) : Plain entry.valueId ∧ Plain entry.value := by
  have hsensor : Plain "sensor:" := by decide
  have hsensorBinary : Plain "sensor_binary:" := by decide
  have hconfig : Plain "config:" := by decide
  have hsetpoint : Plain "setpoint:" := by decide
  -- Each kind of report has its own key and its own rendering, which are made of literals and
  -- numerals.
  cases report with
  | binarySwitch nodeId state =>
    cases h
    refine ⟨(by decide : Plain "binary_switch"), ?_⟩
    dsimp only [renderBinaryState]
    split
    · decide
    · split <;> decide
  | multilevelSwitch nodeId currentValue =>
    cases h
    refine ⟨(by decide : Plain "multilevel_switch"), ?_⟩
    dsimp only [renderSwitchLevel]
    split
    · decide
    · split
      · decide
      · exact (plain_toString _).append (by decide)
  | battery nodeId level lowBattery =>
    cases h
    refine ⟨(by decide : Plain "battery"), ?_⟩
    dsimp only
    split
    · decide
    · exact (plain_toString _).append (by decide)
  -- A reading that can be rendered at all has a numeral for its text.
  | sensorMultilevel nodeId sensorType precision value =>
    obtain ⟨text, htext, hentry⟩ := Option.bind_eq_some_iff.mp h
    cases hentry
    exact ⟨hsensor.append (plain_toString _), plain_renderScaled hwire htext⟩
  | sensorBinary nodeId sensorType value =>
    cases h
    refine ⟨hsensorBinary.append (plain_toString _), ?_⟩
    dsimp only
    split <;> decide
  | configuration nodeId parameter value =>
    cases h
    exact ⟨hconfig.append (plain_toString _), plain_toString_int value⟩
  | thermostatMode nodeId mode =>
    cases h
    exact ⟨(by decide : Plain "thermostat_mode"), plain_toString _⟩
  | thermostatSetpoint nodeId setpointType precision value =>
    obtain ⟨text, htext, hentry⟩ := Option.bind_eq_some_iff.mp h
    cases hentry
    exact ⟨hsetpoint.append (plain_toString _), plain_renderScaled hwire htext⟩

/-! ## The store against it -/

/-- The store stands for the reports that were written. -/
structure Represents (store : Store) (session : Session) (values : Networks (String × Int64)) :
    Prop where
  /-- The connection. -/
  valid : store.dbValid = session.valid
  /-- The network. -/
  network : store.homeId = session.network.map toHex
  /-- The rows. -/
  holds : Holds toHex store.table values

section Represents

variable {store : Store} {session : Session} {values : Networks (String × Int64)}

/-- The home that the store works under is the text of the one that is served. -/
theorem Represents.home (h : Represents store session values) :
    store.home = session.served.map toHex := by
  rw [Store.home, Session.served, h.valid]
  split
  · exact h.network
  · rfl

/-- Recording a value puts it into the map under the served home, if there is one and the statement
succeeds. -/
theorem Represents.record (h : Represents store session values) (nodeId : NodeId)
    (valueId value : String) (now : Int64) (outcome : WriteOutcome) :
    Represents (store.record nodeId valueId value now outcome) session
      (session.write values outcome fun homeId =>
        values.put homeId nodeId (bindText valueId) (bindText value, now)) := by
  have hhome := h.home
  unfold Store.record Store.write Session.write
  rw [hhome]
  cases session.served with
  | none => exact h
  | some homeId =>
    cases outcome with
    | unprepared | failed => exact h
    | done => exact ⟨h.valid, h.network, h.holds.insert toHex_injective (Or.inr rfl)⟩

/-- Clearing a node leaves nothing of it in the network, and all the rest. -/
theorem Represents.clearForNode (h : Represents store session values) (nodeId : NodeId)
    (outcome : WriteOutcome) : Represents (store.clearForNode nodeId outcome) session
      (session.write values outcome fun homeId =>
        values.erase homeId nodeId fun _ => true) := by
  have hhome := h.home
  unfold Store.clearForNode Store.write Session.write
  rw [hhome]
  cases session.served with
  | none => exact h
  | some homeId =>
    cases outcome with
    | unprepared | failed => exact h
    | done =>
      exact ⟨h.valid, h.network, h.holds.delete toHex_injective homeId nodeId fun _ => true⟩

/-- What is written at an event is written in the store. -/
theorem Represents.step {log : List Logged} (h : Represents store session (lastReport log))
    {event : Event} (hwire : event.FromWire) :
    ∃ store', step store event = some (store', event.announced.toList) ∧
      Represents store' (session.next event) (lastReport (log ++ session.log event)) := by
  -- A start and a DongleInfo change what is served, and leave the table and the log alone.
  cases event with
  | start valid =>
    have hlog : log ++ session.log (.start valid) = log := List.append_nil log
    exact ⟨_, rfl, ⟨rfl, rfl, hlog.symm ▸ h.holds⟩⟩
  | dongleInfo homeId =>
    have hlog : log ++ session.log (.dongleInfo homeId) = log := List.append_nil log
    exact ⟨_, rfl, ⟨h.valid, rfl, hlog.symm ▸ h.holds⟩⟩
  -- The report is recorded under the home that is served, and the log says the same.
  | report report now outcome =>
    have hreport : report.FromWire := hwire
    obtain ⟨entry, hentry⟩ := hreport.recorded
    obtain ⟨hvalueId, hvalue⟩ := plain_recorded hreport hentry
    refine ⟨store.record entry.nodeId entry.valueId entry.value now outcome, ?_, ?_⟩
    · rw [NodeValues.step, Event.announced, hentry]
      rfl
    · have hrecord := h.record entry.nodeId entry.valueId entry.value now outcome
      -- What goes into the statement has no NUL in it, so it is bound as it is.
      rw [hvalueId.bindText_eq, hvalue.bindText_eq] at hrecord
      rw [lastReport_log hentry]
      exact hrecord

/-- Whatever comes off the wire, the recorder records it without a fault, announces what it
recorded, and the store goes on to mirror the last reports. -/
theorem Represents.listen {log : List Logged} (h : Represents store session (lastReport log))
    {events : List Event} (hwire : ∀ event ∈ events, event.FromWire) :
    ∃ store', listen store events = some (store', events.filterMap Event.announced) ∧
      Represents store' (events.foldl Session.next session)
        (lastReport (log ++ logged session events)) := by
  induction events generalizing store session log with
  | nil => exact ⟨store, rfl, by rwa [logged, List.append_nil]⟩
  | cons event events ih =>
    obtain ⟨hevent, hevents⟩ := List.forall_mem_cons.mp hwire
    obtain ⟨store', hstep, hafter⟩ := h.step hevent
    obtain ⟨last, hlisten, hlast⟩ := ih hafter hevents
    refine ⟨last, ?_, ?_⟩
    · have hfirst : event.announced.toList ++ events.filterMap Event.announced =
          (event :: events).filterMap Event.announced := by
        rw [List.filterMap_cons]
        cases event.announced <;> rfl
      rw [NodeValues.listen, hstep, ← hfirst]
      simp only [Option.bind_eq_bind, Option.bind_some, hlisten, Option.pure_def]
    · rwa [logged, ← List.append_assoc]

/-! ## What is read -/

/-- An entry of a value. -/
def entryOf (valueId : String) (content : String × Int64) : Entry :=
  { valueId, value := content.1, updatedAt := content.2 }

/-- `get` gives the value last written under the served home, with the value's name as it was
bound. -/
theorem Represents.get (h : Represents store session values) (nodeId : NodeId) (valueId : String) :
    store.get nodeId valueId {} = session.served.bind fun homeId =>
      (values homeId nodeId (bindText valueId)).map (entryOf valueId) := by
  rw [Store.get, h.home]
  cases session.served with
  | none => rfl
  | some homeId =>
    dsimp only [Option.map_some, Option.bind_some]
    rw [h.holds homeId nodeId (bindText valueId)]
    cases values homeId nodeId (bindText valueId) <;> rfl

/-- An entry is among `getAll`'s exactly when it is that of the value last written under its name,
under the served home. -/
theorem Represents.mem_getAll (h : Represents store session values) {nodeId : NodeId}
    {entry : Entry} : entry ∈ store.getAll nodeId {} ↔ (session.served.bind fun homeId =>
      (values homeId nodeId entry.valueId).map (entryOf entry.valueId)) = some entry := by
  rw [Store.getAll, h.home]
  cases session.served with
  | none => simp
  | some homeId =>
    simp only [Option.map_some, Option.bind_some, ReadOutcome.steps, if_true, List.mem_map]
    constructor
    · rintro ⟨row, hrow, rfl⟩
      rw [(h.holds.mem_rowsOf.mp hrow).2.2]
      rfl
    · intro hentry
      obtain ⟨content, hcontent, hcontentEntry⟩ := Option.map_eq_some_iff.mp hentry
      exact ⟨⟨toHex homeId, nodeId, entry.valueId, content⟩,
        h.holds.mem_rowsOf.mpr ⟨rfl, rfl, hcontent⟩, hcontentEntry⟩

/-- The entries that `getAll` gives are in the order of their names, none twice. -/
theorem getAll_ascends (store : Store) (nodeId : NodeId) (outcome : ReadOutcome) :
    (store.getAll nodeId outcome).Pairwise fun a b => a.valueId < b.valueId := by
  rw [Store.getAll]
  split
  · exact List.Pairwise.nil
  · next home _ =>
    exact List.pairwise_map.mpr ((rowsOf_ascends store.table home nodeId).sublist
      (outcome.steps_isPrefix _).sublist)

/-- A reading that fails gives the first of the entries. -/
theorem getAll_isPrefix (store : Store) (nodeId : NodeId) (outcome : ReadOutcome) :
    store.getAll nodeId outcome <+: store.getAll nodeId {} := by
  rw [Store.getAll, Store.getAll]
  split
  · exact List.prefix_refl []
  · exact (outcome.steps_isPrefix _).map _

end Represents

/-- Over any starts, networks and reports off the wire, and whichever statements fail, every report
is announced, once and in order, and the store gives of every value of a node the last report that
was written in the network that is served, with its time; of a node all of them, in the order of
their ids, or the first of these. -/
theorem recorder_remembers {events : List Event} (hwire : ∀ event ∈ events, event.FromWire) :
    ∃ store, listen {} events = some (store, events.filterMap Event.announced) ∧
      let last nodeId valueId := (events.foldl Session.next {}).served.bind fun homeId =>
        lastReport (logged {} events) homeId nodeId valueId
      (∀ nodeId valueId,
        store.get nodeId valueId {} = (last nodeId (bindText valueId)).map (entryOf valueId)) ∧
      ∀ nodeId,
        (∀ entry, entry ∈ store.getAll nodeId {} ↔
          last nodeId entry.valueId = some (entry.value, entry.updatedAt)) ∧
        (store.getAll nodeId {}).Pairwise (fun a b => a.valueId < b.valueId) ∧
        ∀ outcome, store.getAll nodeId outcome <+: store.getAll nodeId {} := by
  -- The empty store stands for the empty log, and every event keeps the two in step.
  have hinit : Represents {} {} (lastReport []) := ⟨rfl, rfl, Holds.empty⟩
  obtain ⟨store, hlisten, hafter⟩ := hinit.listen hwire
  rw [List.nil_append] at hafter
  refine ⟨store, hlisten, ?_⟩
  intro last
  refine ⟨fun nodeId valueId => ?_, fun nodeId => ⟨fun entry => ?_,
    getAll_ascends store nodeId {}, getAll_isPrefix store nodeId⟩⟩
  -- One value is read by its key, and all of them are read by the node.
  · rw [hafter.get, Option.map_bind]
    rfl
  · have hlast : (last nodeId entry.valueId).map (entryOf entry.valueId) = some entry ↔
        entry ∈ store.getAll nodeId {} := by
      rw [hafter.mem_getAll, Option.map_bind]
      rfl
    rw [← hlast, Option.map_eq_some_iff]
    constructor
    · rintro ⟨content, hcontent, hentry⟩
      rw [← hentry] at hcontent ⊢
      exact hcontent
    · intro hcontent
      exact ⟨_, hcontent, rfl⟩

/-- Two networks, a start and a statement that fails. -/
def sampleEvents : List Event :=
  [.dongleInfo [0xC0, 0x01, 0x02, 0x03], .report (.sensorMultilevel 5 1 1 (-215)) 100 .done,
    .dongleInfo [0xC0, 0x01, 0x02, 0x04], .report (.sensorMultilevel 5 1 1 300) 200 .done,
    .start true, .dongleInfo [0xC0, 0x01, 0x02, 0x03],
    .report (.sensorMultilevel 5 1 1 7) 300 .failed]

/-- A report of another network, and one whose statement fails, leave what was reported before. -/
theorem recorder_remembers_sample :
    ∃ store, listen {} sampleEvents = some (store,
        [⟨5, "sensor:1", "-21.5"⟩, ⟨5, "sensor:1", "30.0"⟩, ⟨5, "sensor:1", "0.7"⟩]) ∧
      store.get 5 "sensor:1" {} = some ⟨"sensor:1", "-21.5", 100⟩ := by
  have hprecision : (1 : UInt8) ≤ 7 := by decide
  have hwire : ∀ event ∈ sampleEvents, event.FromWire := by
    simp [sampleEvents, Event.FromWire, Report.FromWire, hprecision]
  obtain ⟨store, hlisten, hget, -⟩ := recorder_remembers hwire
  exact ⟨store, hlisten.trans (by congr 1), (hget 5 "sensor:1").trans (by decide +kernel)⟩

end Zwaved.NodeValues
