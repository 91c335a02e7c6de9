import Mathlib.Data.List.Sort
import Zwaved.Config.Parser
import Zwaved.Protocol.Connection.System

/-!
# The monitor of the dongle

`MonitorThread.cpp` watches the USB devices: it listens to what udev reports, looks once for a
dongle that is plugged in already, and then handles the reports one by one, and publishes
DongleStatus. Devices come and go at any time, also between two steps of the thread, and udev
reports it later, so what a report says may be no longer so when it is handled; what a device is,
and whether it has a tty, the thread reads when it handles the report. No report is lost, an entry
of the configuration is taken literally, and what is logged is left out, like the DaemonError of a
udev that cannot be set up.

`Does` says all that a step can do, and `step_cases` that a step does one of these or nothing.
-/

namespace Zwaved.Dongle

open Config (AcceptedDongle Text)
open Protocol.Connection (DongleStatus)
open Reactive

/-- A USB device that is plugged in. -/
structure UsbDevice where
  /-- `udev_device_get_devpath`. -/
  devpath : String
  /-- The attribute `idVendor`. -/
  idVendor : Option Text
  /-- The attribute `idProduct`. -/
  idProduct : Option Text
  deriving DecidableEq, Repr

/-- A tty. -/
structure Tty where
  /-- Its path in sysfs. -/
  syspath : String
  /-- `udev_device_get_devnode`. -/
  devnode : Option String
  deriving DecidableEq, Repr

/-- What udev reports of a device. -/
structure UdevEvent where
  /-- `udev_device_get_action`. -/
  action : Option String
  /-- `udev_device_get_devpath`. -/
  devpath : Option String
  deriving DecidableEq, Repr

/-- Where the thread is. -/
inductive Stage
  /-- It has not run yet. -/
  | created
  /-- In `setupMonitor`. -/
  | settingUp
  /-- In `findAlreadyInsertedZWaveDongleSyspath`, with these entries left. -/
  | scanning (rest : List AcceptedDongle)
  /-- In `openUdevDeviceBySyspath`. -/
  | opening (devpath : String)
  /-- A dongle has been found, and its tty is looked for. -/
  | tracking (devpath : String)
  /-- It is published, if it has a tty. -/
  | announcing
  /-- At the condition of `runMonitorLoop`. -/
  | atLoop
  /-- In `select`. -/
  | selecting
  /-- It has returned. -/
  | exited
  deriving DecidableEq, Repr

/-- Where the destructor is. -/
inductive Destructor
  /-- It has not been called. -/
  | alive
  /-- It has set `running`, and joins. -/
  | joining
  /-- It has joined. -/
  | finished
  deriving DecidableEq, Repr

/-- `ZwaveMonitorState` and the locals of the thread, with the devices of the machine. -/
structure ZwaveMonitorState where
  /-- The USB devices, in the order in which udev lists them. -/
  usb : List UsbDevice := []
  /-- The ttys, in that order. -/
  ttys : List Tty := []
  /-- `udev_monitor_enable_receiving` has been called. -/
  listening : Bool := false
  /-- What udev has still to report. -/
  delayed : List UdevEvent := []
  /-- What has been reported to the monitor, and not been received. -/
  events : List UdevEvent := []
  /-- Where the thread is. -/
  stage : Stage := .created
  /-- `running`; `startZWaveMonitorThread` sets it. -/
  running : Bool := true
  /-- `trackedDevpath`. -/
  trackedDevpath : String := ""
  /-- `trackedTtyNode`. -/
  trackedTtyNode : String := ""
  /-- Where the destructor is. -/
  destructor : Destructor := .alive
  deriving DecidableEq, Repr

/-- What happens. -/
inductive Input
  /-- A device is plugged in. -/
  | plug (device : UsbDevice)
  /-- A device is unplugged. -/
  | unplug (devpath : String)
  /-- The ttys are other ones. -/
  | ttys (ttys : List Tty)
  /-- Something else happens that udev reports. -/
  | change (event : UdevEvent)
  /-- udev makes its next report. -/
  | report
  /-- The thread takes a step; `ready` says whether udev is set up, and what `select` returns. -/
  | proceed (ready : Bool)
  /-- The destructor takes a step. -/
  | destroy
  deriving DecidableEq, Repr

/-- What a report says of a path: that the device has come, or gone. -/
def UdevEvent.about (devpath : String) (event : UdevEvent) : Option Bool :=
  if event.devpath = some devpath then
    if event.action = some "add" then some true
    else if event.action = some "remove" then some false
    else none
  else none

/-- An entry names the device. -/
def Names (entry : AcceptedDongle) (device : UsbDevice) : Prop :=
  device.idVendor = some entry.vid ∧ device.idProduct = some entry.pid

instance (entry : AcceptedDongle) (device : UsbDevice) : Decidable (Names entry device) :=
  inferInstanceAs (Decidable (_ ∧ _))

namespace ZwaveMonitorState

/-- The device is one of those accepted. -/
def Accepted (accept : List AcceptedDongle) (device : UsbDevice) : Prop :=
  ∃ entry ∈ accept, Names entry device

instance (accept : List AcceptedDongle) (device : UsbDevice) :
    Decidable (Accepted accept device) :=
  inferInstanceAs (Decidable (∃ _ ∈ _, _))

variable (accept : List AcceptedDongle) (s : ZwaveMonitorState)

/-- A device is plugged in there. -/
def Plugged (devpath : String) : Prop := ∃ device ∈ s.usb, device.devpath = devpath

instance (devpath : String) : Decidable (s.Plugged devpath) :=
  inferInstanceAs (Decidable (∃ _ ∈ _, _))

/-- `isZWaveDongle`, of the device that is plugged in there. -/
def IsZWaveDongle (devpath : String) : Prop :=
  ∃ device ∈ s.usb, device.devpath = devpath ∧ Accepted accept device

instance (devpath : String) : Decidable (s.IsZWaveDongle accept devpath) :=
  inferInstanceAs (Decidable (∃ _ ∈ _, _))

/-- `findAttachedTtyNode`: the first tty whose path begins with that of the device. -/
def findAttachedTtyNode (devpath : String) : String :=
  match s.ttys.find? fun tty => ("/sys" ++ devpath).toList.isPrefixOf tty.syspath.toList with
  | some tty => tty.devnode.getD ""
  | none => ""

/-- The events with one that is reported, if the monitor listens. -/
def reported (event : UdevEvent) : List UdevEvent :=
  if s.listening then s.events ++ [event] else s.events

/-- `handleDeviceEvent`, up to the lookup of the tty. -/
def handleDeviceEvent (event : UdevEvent) : ZwaveMonitorState × List DongleStatus :=
  match event.action, event.devpath with
  | some action, some devpath =>
    if action = "add" then
      if s.IsZWaveDongle accept devpath then ({ s with stage := .tracking devpath }, [])
      else ({ s with stage := .atLoop }, [])
    else if action = "remove" then
      if s.trackedDevpath ≠ "" ∧ s.trackedDevpath = devpath then
        ({ s with trackedDevpath := "", trackedTtyNode := "", stage := .atLoop }, [⟨false, ""⟩])
      else ({ s with stage := .atLoop }, [])
    else ({ s with stage := .atLoop }, [])
  | _, _ => ({ s with stage := .atLoop }, [])

/-- A step of `zwaveMonitorThread`. -/
def proceed (ready : Bool) : ZwaveMonitorState × List DongleStatus :=
  match s.stage with
  | .created => ({ s with running := true, stage := .settingUp }, [])
  | .settingUp =>
    if ready then ({ s with listening := true, stage := .scanning accept }, [])
    else ({ s with stage := .exited }, [])
  | .scanning [] => ({ s with stage := .atLoop }, [])
  | .scanning (entry :: rest) =>
    match s.usb.find? fun device => Names entry device with
    | some device => ({ s with stage := .opening device.devpath }, [])
    | none => ({ s with stage := .scanning rest }, [])
  | .opening devpath =>
    if s.Plugged devpath then ({ s with stage := .tracking devpath }, [])
    else ({ s with stage := .atLoop }, [])
  | .tracking devpath =>
    ({ s with
      trackedDevpath := devpath
      trackedTtyNode := s.findAttachedTtyNode devpath
      stage := .announcing }, [])
  | .announcing =>
    ({ s with stage := .atLoop },
      if s.trackedTtyNode = "" then [] else [⟨true, s.trackedTtyNode⟩])
  | .atLoop => ({ s with stage := if s.running then .selecting else .exited }, [])
  | .selecting =>
    match ready, s.events with
    | true, event :: events => { s with events }.handleDeviceEvent accept event
    -- The time is over, or `select` is interrupted.
    | _, _ => ({ s with stage := .atLoop }, [])
  | .exited => (s, [])

/-- `~ZwaveMonitorState`. -/
def destroy : ZwaveMonitorState :=
  match s.destructor with
  | .alive => { s with running := false, destructor := .joining }
  | .joining => if s.stage = .exited then { s with destructor := .finished } else s
  | .finished => s

/-- One step; what cannot happen changes nothing. -/
def step : Input → ZwaveMonitorState × List DongleStatus
  | .plug device =>
    if device.devpath = "" ∨ s.Plugged device.devpath then (s, [])
    else ({ s with
      usb := s.usb.orderedInsert (·.devpath ≤ ·.devpath) device
      delayed := s.delayed ++ [⟨some "add", some device.devpath⟩] }, [])
  | .unplug devpath =>
    if s.Plugged devpath then ({ s with
      usb := s.usb.filter fun device => device.devpath ≠ devpath
      delayed := s.delayed ++ [⟨some "remove", some devpath⟩] }, [])
    else (s, [])
  | .ttys ttys => ({ s with ttys }, [])
  | .change event =>
    if event.action = some "add" ∨ event.action = some "remove" then (s, [])
    else ({ s with delayed := s.delayed ++ [event] }, [])
  | .report =>
    match s.delayed with
    | [] => (s, [])
    | event :: delayed => ({ s with delayed, events := s.reported event }, [])
  | .proceed ready => s.proceed accept ready
  | .destroy => (s.destroy, [])

/-! ## What a step does -/

/-- What a step can do. -/
inductive Does : Input → ZwaveMonitorState × List DongleStatus → Prop
  /-- A device is plugged in. -/
  | plug (device : UsbDevice) : device.devpath ≠ "" →
    Does (.plug device) ({ s with
      usb := s.usb.orderedInsert (·.devpath ≤ ·.devpath) device
      delayed := s.delayed ++ [⟨some "add", some device.devpath⟩] }, [])
  /-- A device is unplugged. -/
  | unplug (devpath : String) : s.Plugged devpath →
    Does (.unplug devpath) ({ s with
      usb := s.usb.filter fun device => device.devpath ≠ devpath
      delayed := s.delayed ++ [⟨some "remove", some devpath⟩] }, [])
  /-- The ttys are other ones. -/
  | ttys (ttys : List Tty) : Does (.ttys ttys) ({ s with ttys }, [])
  /-- Something else happens. -/
  | change (event : UdevEvent) : (∀ devpath, event.about devpath = none) →
    Does (.change event) ({ s with delayed := s.delayed ++ [event] }, [])
  /-- udev makes a report. -/
  | report (event : UdevEvent) (delayed : List UdevEvent) : s.delayed = event :: delayed →
    Does .report ({ s with delayed, events := s.reported event }, [])
  /-- The thread begins. -/
  | begins (ready : Bool) : s.stage = .created →
    Does (.proceed ready) ({ s with running := true, stage := .settingUp }, [])
  /-- The monitor listens. -/
  | listens : s.stage = .settingUp →
    Does (.proceed true) ({ s with listening := true, stage := .scanning accept }, [])
  /-- It cannot be set up, or the loop is over. -/
  | exits (ready : Bool) :
    s.stage = .settingUp ∧ ready = false ∨ s.stage = .atLoop ∧ s.running = false →
    Does (.proceed ready) ({ s with stage := .exited }, [])
  /-- No device is one of the entry. -/
  | passes (ready : Bool) (entry : AcceptedDongle) (rest : List AcceptedDongle) :
    s.stage = .scanning (entry :: rest) → (∀ device ∈ s.usb, ¬ Names entry device) →
    Does (.proceed ready) ({ s with stage := .scanning rest }, [])
  /-- A device is. -/
  | finds (ready : Bool) (entry : AcceptedDongle) (rest : List AcceptedDongle)
    (device : UsbDevice) : s.stage = .scanning (entry :: rest) → device ∈ s.usb →
    Names entry device → Does (.proceed ready) ({ s with stage := .opening device.devpath }, [])
  /-- It is still there. -/
  | opens (ready : Bool) (devpath : String) : s.stage = .opening devpath → s.Plugged devpath →
    Does (.proceed ready) ({ s with stage := .tracking devpath }, [])
  /-- The thread comes to its loop, or its `select` returns without a report. -/
  | loops (ready : Bool) : s.stage = .scanning [] ∨
      (∃ devpath, s.stage = .opening devpath ∧ ¬ s.Plugged devpath) ∨
      s.stage = .selecting ∧ (ready = true → s.events = []) →
    Does (.proceed ready) ({ s with stage := .atLoop }, [])
  /-- The tty is looked for. -/
  | tracks (ready : Bool) (devpath : String) : s.stage = .tracking devpath →
    Does (.proceed ready) ({ s with
      trackedDevpath := devpath
      trackedTtyNode := s.findAttachedTtyNode devpath
      stage := .announcing }, [])
  /-- The dongle is published. -/
  | announces (ready : Bool) : s.stage = .announcing →
    Does (.proceed ready) ({ s with stage := .atLoop },
      if s.trackedTtyNode = "" then [] else [⟨true, s.trackedTtyNode⟩])
  /-- The thread waits. -/
  | selects (ready : Bool) : s.stage = .atLoop → s.running = true →
    Does (.proceed ready) ({ s with stage := .selecting }, [])
  /-- A dongle has come. -/
  | adds (devpath : String) (event : UdevEvent) (events : List UdevEvent) :
    s.stage = .selecting → s.events = event :: events → event.about devpath = some true →
    s.IsZWaveDongle accept devpath →
    Does (.proceed true) ({ s with events, stage := .tracking devpath }, [])
  /-- The dongle has gone. -/
  | removes (event : UdevEvent) (events : List UdevEvent) :
    s.stage = .selecting → s.events = event :: events → s.trackedDevpath ≠ "" →
    event.about s.trackedDevpath = some false →
    Does (.proceed true) ({ s with
      events
      trackedDevpath := ""
      trackedTtyNode := ""
      stage := .atLoop }, [⟨false, ""⟩])
  /-- A report that is about something else. -/
  | ignores (event : UdevEvent) (events : List UdevEvent) :
    s.stage = .selecting → s.events = event :: events →
    (∀ devpath, event.about devpath = some true → ¬ s.IsZWaveDongle accept devpath) →
    (s.trackedDevpath = "" ∨ event.about s.trackedDevpath ≠ some false) →
    Does (.proceed true) ({ s with events, stage := .atLoop }, [])
  /-- The destructor is called. -/
  | destroys : s.destructor = .alive →
    Does .destroy ({ s with running := false, destructor := .joining }, [])
  /-- The destructor has joined. -/
  | joins : s.destructor = .joining → s.stage = .exited →
    Does .destroy ({ s with destructor := .finished }, [])

variable {accept s}

/-- Whatever the report, handling it is one of the moves that `Does` lists. -/
theorem handleDeviceEvent_cases {event : UdevEvent} {events : List UdevEvent}
    (hstage : s.stage = .selecting) (hevents : s.events = event :: events) :
    Does accept s (.proceed true)
      (({ s with events } : ZwaveMonitorState).handleDeviceEvent accept event) := by
  obtain ⟨action, devpath⟩ := event
  unfold handleDeviceEvent
  -- Only a report with a path and one of the two actions is about anything.
  have hnone : (∀ p, (⟨action, devpath⟩ : UdevEvent).about p = none) →
      Does accept s (.proceed true) ({ s with events, stage := .atLoop }, []) := fun h =>
    .ignores _ events hstage hevents (fun p hp => by simp [h p] at hp) (Or.inr (by simp [h]))
  cases action with
  | none => exact hnone fun p => by simp [UdevEvent.about]
  | some action =>
    cases devpath with
    | none => exact hnone fun p => by simp [UdevEvent.about]
    | some devpath =>
      dsimp only
      split
      · next hadd =>
        subst hadd
        split
        · next hdongle =>
          exact .adds devpath _ events hstage hevents (by simp [UdevEvent.about]) hdongle
        · next hdongle =>
          refine .ignores _ events hstage hevents (fun p hp => ?_) (Or.inr ?_)
          · have hsame : devpath = p := by
              by_contra hne
              simp [UdevEvent.about, hne] at hp
            rw [← hsame]
            exact hdongle
          · simp [UdevEvent.about]
      · next hadd =>
        split
        · next hremove =>
          subst hremove
          split
          · next htracked =>
            refine .removes _ events hstage hevents htracked.1 ?_
            simp [UdevEvent.about, htracked.2]
          · next htracked =>
            refine .ignores _ events hstage hevents (fun p hp => ?_) ?_
            · simp [UdevEvent.about] at hp
            · by_cases hempty : s.trackedDevpath = ""
              · exact Or.inl hempty
              · refine Or.inr fun hp => htracked ⟨hempty, ?_⟩
                by_contra hne
                simp [UdevEvent.about, Ne.symm hne] at hp
        · next hremove =>
          exact hnone fun p => by simp [UdevEvent.about, hadd, hremove]

/-- A thread that proceeds is over or makes one of the moves that `Does` lists. -/
theorem proceed_cases (accept : List AcceptedDongle) (s : ZwaveMonitorState) (ready : Bool) :
    s.stage = .exited ∨ Does accept s (.proceed ready) (s.proceed accept ready) := by
  -- The stages in the order of the source, each with the one thing that it does.
  unfold proceed
  cases hstage : s.stage with
  | created => exact Or.inr (.begins ready hstage)
  | settingUp =>
    cases ready with
    | true => exact Or.inr (.listens hstage)
    | false => exact Or.inr (.exits false (Or.inl ⟨hstage, rfl⟩))
  | scanning rest =>
    -- The accepted entries are looked for one after another, and the scan ends with the first that
    -- is there.
    cases rest with
    | nil => exact Or.inr (.loops ready (Or.inl hstage))
    | cons entry rest =>
      dsimp only
      cases hfind : s.usb.find? fun device => Names entry device with
      | none =>
        refine Or.inr (.passes ready entry rest hstage fun device hdevice => ?_)
        simpa using List.find?_eq_none.mp hfind device hdevice
      | some device =>
        exact Or.inr (.finds ready entry rest device hstage (List.mem_of_find?_eq_some hfind)
          (by simpa using List.find?_some hfind))
  -- The device may be gone by the time that it is opened.
  | opening devpath =>
    dsimp only
    split
    · next hplugged => exact Or.inr (.opens ready devpath hstage hplugged)
    · next hgone => exact Or.inr (.loops ready (Or.inr (Or.inl ⟨devpath, hstage, hgone⟩)))
  | tracking devpath => exact Or.inr (.tracks ready devpath hstage)
  | announcing => exact Or.inr (.announces ready hstage)
  | atLoop =>
    dsimp only
    by_cases hrunning : s.running = true
    · rw [if_pos hrunning]
      exact Or.inr (.selects ready hstage hrunning)
    · rw [if_neg hrunning]
      exact Or.inr (.exits ready (Or.inr ⟨hstage, Bool.not_eq_true _ ▸ hrunning⟩))
  -- `select` returns with a report to read, or with none.
  | selecting =>
    dsimp only
    split
    · next event events hevents => exact Or.inr (handleDeviceEvent_cases hstage hevents)
    · next hnone =>
      refine Or.inr (.loops _ (Or.inr (Or.inr ⟨hstage, fun hready => ?_⟩)))
      cases hevents : s.events with
      | nil => rfl
      | cons event events => exact absurd hevents (hnone event events hready)
  | exited => exact Or.inl rfl

/-- An input changes nothing, or is one of the moves that `Does` lists. -/
theorem step_cases (accept : List AcceptedDongle) (s : ZwaveMonitorState) (input : Input) :
    s.step accept input = (s, []) ∨ Does accept s input (s.step accept input) := by
  cases input with
  | plug device =>
    -- A path that is taken already cannot be plugged in.
    rw [step]
    split
    · exact Or.inl rfl
    · next hfree => exact Or.inr (.plug device (not_or.mp hfree).1)
  | unplug devpath =>
    rw [step]
    split
    · next hplugged => exact Or.inr (.unplug devpath hplugged)
    · exact Or.inl rfl
  | ttys ttys => exact Or.inr (.ttys ttys)
  | change event =>
    rw [step]
    split
    · exact Or.inl rfl
    · next hother =>
      refine Or.inr (.change event fun devpath => ?_)
      obtain ⟨hadd, hremove⟩ := not_or.mp hother
      simp [UdevEvent.about, hadd, hremove]
  -- There may be no report that is still on its way.
  | report =>
    unfold step
    dsimp only
    split
    · exact Or.inl rfl
    · next event delayed hdelayed => exact Or.inr (.report event delayed hdelayed)
  | proceed ready =>
    rcases proceed_cases accept s ready with hexited | hdoes
    · refine Or.inl (?_ : s.proceed accept ready = (s, []))
      unfold proceed
      rw [hexited]
    · exact Or.inr hdoes
  | destroy =>
    -- The destructor returns once the thread has.
    rw [step, destroy]
    cases hdestructor : s.destructor with
    | alive => exact Or.inr (.destroys hdestructor)
    | joining =>
      dsimp only
      split
      · next hexited => exact Or.inr (.joins hdestructor hexited)
      · exact Or.inl rfl
    | finished => exact Or.inl rfl

end ZwaveMonitorState

end Zwaved.Dongle
