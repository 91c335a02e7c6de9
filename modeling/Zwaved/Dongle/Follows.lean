import Zwaved.Dongle.Monitor

/-!
# The dongle that is plugged in is the one that is announced

The thread reads sysfs when it handles a report, so the report may be an old one and the device
another by then. What carries the argument is the last that the reports to come say of a path
(`lastWord`): it is never out of date (`Sound.word`), so that whatever the thread is wrong about,
there is a report to come that puts it right. `Sound.target` is the half that keeps it from
announcing what is gone, and `Found.looked` the one that keeps it from missing what is there, the
device that was plugged in before the monitor listened included: the thread looks for it only after
that.

A thread that runs comes to rest (`monitor_rests`), and what holds then is `monitor_follows`.
-/

namespace Zwaved.Dongle

open Config (AcceptedDongle defaultDongle)
open Protocol.Connection (DongleStatus)
open Reactive

/-! ## The last that is said of a path -/

/-- The last that the events say of a path. -/
def lastWord (devpath : String) (events : List UdevEvent) : Option Bool :=
  events.reverse.findSome? (UdevEvent.about devpath)

section LastWord

variable {devpath other : String} {event : UdevEvent} {events : List UdevEvent}

/-- A report that comes last has the last word on a path, if it says anything of it. -/
theorem lastWord_concat (devpath : String) (events : List UdevEvent) (event : UdevEvent) :
    lastWord devpath (events ++ [event]) = (event.about devpath).or (lastWord devpath events) := by
  rw [lastWord, List.reverse_concat, List.findSome?_cons]
  cases event.about devpath <;> rfl

/-- A report that comes first has the last word on a path only if no other says anything of it. -/
theorem lastWord_cons (devpath : String) (event : UdevEvent) (events : List UdevEvent) :
    lastWord devpath (event :: events) = (lastWord devpath events).or (event.about devpath) := by
  rw [lastWord, List.reverse_cons, List.findSome?_append]
  cases h : event.about devpath <;> simp [h, lastWord]

/-- An `add` report says of its own path that there is a device, and nothing of any other. -/
theorem about_add (devpath other : String) :
    (⟨some "add", some other⟩ : UdevEvent).about devpath =
      if other = devpath then some true else none := by
  simp [UdevEvent.about]

/-- A `remove` report says of its own path that there is none, and nothing of any other. -/
theorem about_remove (devpath other : String) :
    (⟨some "remove", some other⟩ : UdevEvent).about devpath =
      if other = devpath then some false else none := by
  simp [UdevEvent.about]

/-- A report has one action, whatever it is about. -/
theorem about_ne_of_about {word : Bool} (h : event.about devpath = some word) :
    event.about other ≠ some !word := by
  unfold UdevEvent.about at h ⊢
  intro h'
  split at h
  · split at h' <;> [skip; cases h']
    split at h
    · next hadd =>
      rw [if_pos hadd] at h'
      cases h
      cases h'
    · next hadd =>
      rw [if_neg hadd] at h'
      split at h
      · next hremove =>
        rw [if_pos hremove] at h'
        cases h
        cases h'
      · cases h
  · cases h

end LastWord

/-! ## What the stages stand for -/

namespace Stage

/-- The monitor does not listen yet, or the thread is over. -/
def Deaf : Stage → Prop
  | .created | .settingUp | .exited => True
  | _ => False

/-- The entries that are left to look through. -/
def entries : Stage → List AcceptedDongle
  | .scanning rest => rest
  | _ => []

/-- The thread has come to no dongle yet. -/
def Looks : Stage → Prop
  | .created | .settingUp | .scanning _ | .opening _ => True
  | _ => False

/-- The thread has the path of a dongle that it does not track yet. -/
def Aims : Stage → Prop
  | .opening _ | .tracking _ => True
  | _ => False

/-- The thread is about to publish. -/
def Holds : Stage → Prop
  | .tracking _ | .announcing => True
  | _ => False

/-- The path that is tracked, or about to be. -/
def target (tracked : String) : Stage → String
  | .opening devpath | .tracking devpath => devpath
  | _ => tracked

end Stage

namespace ZwaveMonitorState

variable {accept : List AcceptedDongle} {s s' : ZwaveMonitorState} {input : Input}
  {event : UdevEvent} {events : List UdevEvent} {last : Option DongleStatus}

/-- The path that is tracked, or about to be. -/
def target (s : ZwaveMonitorState) : String := s.stage.target s.trackedDevpath

/-- Unless the thread has a path that it does not track yet, its target is what it tracks. -/
theorem target_eq (h : ¬ s.stage.Aims) : s.target = s.trackedDevpath := by
  unfold target
  cases hstage : s.stage with
  | opening devpath =>
    rw [hstage] at h
    exact absurd trivial h
  | tracking devpath =>
    rw [hstage] at h
    exact absurd trivial h
  | _ => rfl

/-! ## What is still to be handled -/

/-- The reports that the thread has not handled. -/
def pending (s : ZwaveMonitorState) : List UdevEvent := s.events ++ s.delayed

/-- The report that the thread receives next is the first of those still to be handled. -/
theorem pending_eq (h : s.events = event :: events) :
    s.pending = event :: ({ s with events } : ZwaveMonitorState).pending := by
  rw [pending, h]
  rfl

/-- A report that is made now has the last word on its path among all that are to come. -/
theorem lastWord_delayed (s : ZwaveMonitorState) (devpath : String) (event : UdevEvent) :
    lastWord devpath (s.events ++ (s.delayed ++ [event])) =
      (event.about devpath).or (lastWord devpath s.pending) := by
  rw [← List.append_assoc, lastWord_concat]
  rfl

/-- A report that is still to be handled stays so when another is made. -/
theorem mem_delayed {other : UdevEvent} (h : other ∈ s.pending) :
    other ∈ s.events ++ (s.delayed ++ [event]) := by
  rw [← List.append_assoc]
  exact List.mem_append_left _ h

/-- While the monitor listens, the report that is made moves from those on their way to those that
it has got, and is still to be handled. -/
theorem pending_reported {delayed : List UdevEvent} (hlistening : s.listening = true)
    (hdelayed : s.delayed = event :: delayed) : s.reported event ++ delayed = s.pending := by
  rw [reported, if_pos hlistening, pending, hdelayed, List.append_assoc, List.singleton_append]

/-- While it does not listen, the report that is made is lost and no longer to be handled. -/
theorem pending_eq_of_deaf {delayed : List UdevEvent} (hlistening : s.listening = false)
    (hdelayed : s.delayed = event :: delayed) (hevents : s.events = []) :
    s.pending = event :: (s.reported event ++ delayed) := by
  rw [reported, hlistening, pending, hdelayed, hevents]
  rfl

/-! ## What is announced is plugged in -/

/-- What holds after every run, where `last` is the status that was published last. -/
structure Sound (accept : List AcceptedDongle) (s : ZwaveMonitorState)
    (last : Option DongleStatus) : Prop where
  /-- Until the monitor listens, nothing is reported and nothing tracked. -/
  deaf : s.listening = false → s.stage.Deaf ∧ s.events = [] ∧ s.trackedDevpath = ""
  /-- The last that is said of a path is so. -/
  word : ∀ devpath word, lastWord devpath s.pending = some word →
    (word = true ↔ s.Plugged devpath)
  /-- The paths of devices are not empty. -/
  named : ∀ device ∈ s.usb, device.devpath ≠ ""
  /-- The entries that are looked through are some of those that are accepted. -/
  entries : ∀ entry ∈ s.stage.entries, entry ∈ accept
  /-- The thread tracks none before it has come to one. -/
  unset : s.stage.Looks → s.trackedDevpath = ""
  /-- A dongle is there, unless there is a report to come that it has gone. -/
  target : s.target ≠ "" → (∀ event ∈ s.pending, event.about s.target ≠ some false) →
    s.IsZWaveDongle accept s.target
  /-- What is about to be published has a path. -/
  path : s.stage.Holds → s.target ≠ ""
  /-- What has been published is tracked. -/
  connected : ∀ ttyPath, last = some ⟨true, ttyPath⟩ → s.trackedDevpath ≠ ""
  /-- A tty is published. -/
  tty : s.trackedTtyNode ≠ "" → s.stage = .announcing ∨ last = some ⟨true, s.trackedTtyNode⟩

/-- The monitor is sound before it starts. -/
theorem Sound.initial (accept : List AcceptedDongle) : Sound accept {} none where
  deaf _ := ⟨trivial, rfl, rfl⟩
  word _ _ h := nomatch h
  named _ h := absurd h List.not_mem_nil
  entries _ h := absurd h List.not_mem_nil
  unset _ := rfl
  target h := absurd rfl h
  path := False.elim
  connected _ h := nomatch h
  tty h := absurd rfl h

/-- A thread that is past the setup and has not left its loop listens. -/
theorem Sound.hears (h : Sound accept s last) (hstage : ¬ s.stage.Deaf) : s.listening = true := by
  by_contra hdeaf
  exact hstage (h.deaf (Bool.not_eq_true _ ▸ hdeaf)).1

/-- While the monitor does not listen, the thread has no path in mind. -/
theorem Sound.target_of_deaf (h : Sound accept s last) (hdeaf : s.listening = false) :
    s.target = "" := by
  obtain ⟨hstage, -, htracked⟩ := h.deaf hdeaf
  refine (target_eq fun haims => ?_).trans htracked
  cases hs : s.stage <;> rw [hs] at hstage haims <;> contradiction

/-- Soundness is kept when a device is plugged in or unplugged: the report of it is on its way and
has the last word on its path, and every other device stays. -/
theorem Sound.around (h : Sound accept s last) {usb : List UsbDevice}
    (hword : ∀ devpath, event.about devpath = none →
      ((∃ device ∈ usb, device.devpath = devpath) ↔ s.Plugged devpath))
    (hevent : ∀ devpath word, event.about devpath = some word →
      (word = true ↔ ∃ device ∈ usb, device.devpath = devpath))
    (hnamed : ∀ device ∈ usb, device.devpath ≠ "")
    (hstays : ∀ device ∈ s.usb, event.about device.devpath ≠ some false → device ∈ usb) :
    Sound accept { s with usb, delayed := s.delayed ++ [event] } last where
  deaf := h.deaf
  word devpath word hlast := by
    have hlast := (lastWord_delayed s devpath event).symm.trans hlast
    cases habout : event.about devpath with
    | none =>
      rw [habout] at hlast
      exact (h.word devpath word hlast).trans (hword devpath habout).symm
    | some said =>
      rw [habout] at hlast
      cases hlast
      exact hevent devpath word habout
  named := hnamed
  entries := h.entries
  unset := h.unset
  target hne hkept := by
    obtain ⟨device, hdevice, hpath, haccepted⟩ :=
      h.target hne fun other hother => hkept other (mem_delayed hother)
    refine ⟨device, hstays device hdevice ?_, hpath, haccepted⟩
    rw [hpath]
    refine hkept event ?_
    change event ∈ s.events ++ (s.delayed ++ [event])
    exact List.mem_append_right _ (List.mem_append_right _ (List.mem_singleton_self event))
  path := h.path
  connected := h.connected
  tty := h.tty

/-- Soundness is kept when a report reaches the monitor, or is lost because the monitor does not
listen yet. -/
theorem Sound.report (h : Sound accept s last) {delayed : List UdevEvent}
    (hdelayed : s.delayed = event :: delayed) :
    Sound accept { s with delayed, events := s.reported event } last where
  deaf hdeaf := by
    obtain ⟨hstage, hevents, htracked⟩ := h.deaf hdeaf
    refine ⟨hstage, ?_, htracked⟩
    change s.reported event = []
    rw [reported, show s.listening = false from hdeaf, hevents]
    rfl
  word devpath word hlast := by
    change lastWord devpath (s.reported event ++ delayed) = some word at hlast
    refine h.word devpath word ?_
    cases hlistening : s.listening with
    | true => rw [← pending_reported hlistening hdelayed, hlast]
    | false =>
      rw [pending_eq_of_deaf hlistening hdelayed (h.deaf hlistening).2.1, lastWord_cons, hlast]
      rfl
  named := h.named
  entries := h.entries
  unset := h.unset
  target hne hkept := by
    cases hlistening : s.listening with
    | true =>
      refine h.target hne ?_
      rw [← pending_reported hlistening hdelayed]
      exact hkept
    | false => exact absurd (h.target_of_deaf hlistening) hne
  path := h.path
  connected := h.connected
  tty := h.tty

/-- Soundness is kept when the thread goes on to another stage without receiving or publishing
anything, if the stage's target is what it was, nothing, or a dongle that is there. -/
theorem Sound.goes (h : Sound accept s last) {stage : Stage} {listening running : Bool}
    (hpublished : s.stage ≠ .announcing)
    (hdeaf : listening = true ∨ listening = s.listening ∧ stage.Deaf)
    (hentries : ∀ entry ∈ stage.entries, entry ∈ accept)
    (hunset : stage.Looks → s.trackedDevpath = "")
    (htarget : stage.target s.trackedDevpath = s.target ∨
      stage.target s.trackedDevpath = "" ∨ s.IsZWaveDongle accept (stage.target s.trackedDevpath))
    (hpath : stage.Holds → stage.target s.trackedDevpath ≠ "") :
    Sound accept { s with stage, listening, running } last where
  deaf hno := by
    change listening = false at hno
    rcases hdeaf with hyes | ⟨hsame, hstage⟩
    · rw [hno] at hyes
      cases hyes
    · exact ⟨hstage, (h.deaf (hsame.symm.trans hno)).2⟩
  word := h.word
  named := h.named
  entries := hentries
  unset := hunset
  target hne hkept := by
    change stage.target s.trackedDevpath ≠ "" at hne
    change ∀ event ∈ s.pending, event.about (stage.target s.trackedDevpath) ≠ some false at hkept
    change s.IsZWaveDongle accept (stage.target s.trackedDevpath)
    rcases htarget with hsame | hempty | hdongle
    · rw [hsame] at hne hkept ⊢
      exact h.target hne hkept
    · exact absurd hempty hne
    · exact hdongle
  path := hpath
  connected := h.connected
  tty htty := Or.inr ((h.tty htty).resolve_left hpublished)

/-- Soundness is kept when the thread receives a report that does not say that its target has
gone. -/
theorem Sound.receives (h : Sound accept s last) (hevents : s.events = event :: events)
    (hkept : s.target ≠ "" → event.about s.target ≠ some false) :
    Sound accept { s with events } last where
  deaf hdeaf := by
    have hempty := (h.deaf hdeaf).2.1
    rw [hevents] at hempty
    cases hempty
  word devpath word hlast := by
    refine h.word devpath word ?_
    rw [pending_eq hevents, lastWord_cons]
    exact Option.or_eq_some_iff.mpr (Or.inl hlast)
  named := h.named
  entries := h.entries
  unset := h.unset
  target hne hrest := by
    refine h.target hne fun other hother => ?_
    rw [pending_eq hevents] at hother
    rcases List.mem_cons.mp hother with rfl | hother
    · exact hkept hne
    · exact hrest other hother
  path := h.path
  connected := h.connected
  tty := h.tty

/-- Soundness is kept when the thread takes its target for the tracked dongle, with the tty node
that it found. -/
theorem Sound.tracks (h : Sound accept s last) {devpath : String}
    (hstage : s.stage = .tracking devpath) (node : String) :
    Sound accept { s with
      trackedDevpath := devpath
      trackedTtyNode := node
      stage := .announcing } last := by
  have htarget : s.target = devpath := by rw [ZwaveMonitorState.target, hstage]; rfl
  have hpath : devpath ≠ "" := by
    rw [← htarget]
    exact h.path (by rw [hstage]; trivial)
  refine ⟨fun hdeaf => ?_, h.word, h.named, fun _ hentry => absurd hentry List.not_mem_nil,
    False.elim, fun hne hkept => ?_, fun _ => hpath, fun _ _ => hpath, fun _ => Or.inl rfl⟩
  · have hdeaf := (h.deaf hdeaf).1
    rw [hstage] at hdeaf
    exact hdeaf.elim
  · have hdongle := h.target
    rw [htarget] at hdongle
    exact hdongle hne hkept

/-- Soundness is kept when the thread publishes the tty of the tracked dongle, or has found none to
publish. -/
theorem Sound.announces (h : Sound accept s last) (hstage : s.stage = .announcing) :
    Sound accept { s with stage := .atLoop }
      ((if s.trackedTtyNode = "" then [] else
        [(⟨true, s.trackedTtyNode⟩ : DongleStatus)]).getLast?.or last) := by
  have htarget : s.target = s.trackedDevpath := target_eq (by rw [hstage]; exact id)
  refine ⟨fun hdeaf => ?_, h.word, h.named, fun _ hentry => absurd hentry List.not_mem_nil,
    False.elim, fun hne hkept => ?_, False.elim, fun ttyPath hlast => ?_, fun htty => Or.inr ?_⟩
  · have hdeaf := (h.deaf hdeaf).1
    rw [hstage] at hdeaf
    exact hdeaf.elim
  · have hdongle := h.target
    rw [htarget] at hdongle
    exact hdongle hne hkept
  · rw [← htarget]
    exact h.path (by rw [hstage]; trivial)
  · rw [if_neg htty]
    rfl

/-- Soundness is kept when the thread publishes that the tracked dongle has gone: nothing is tracked
then. -/
theorem Sound.removes (h : Sound accept s last) (hevents : s.events = event :: events) :
    Sound accept { s with
      events
      trackedDevpath := ""
      trackedTtyNode := ""
      stage := .atLoop } (some ⟨false, ""⟩) where
  deaf hdeaf := by
    have hempty := (h.deaf hdeaf).2.1
    rw [hevents] at hempty
    cases hempty
  word devpath word hlast := by
    refine h.word devpath word ?_
    rw [pending_eq hevents, lastWord_cons]
    exact Option.or_eq_some_iff.mpr (Or.inl hlast)
  named := h.named
  entries _ h := absurd h List.not_mem_nil
  unset := False.elim
  target h := absurd rfl h
  path := False.elim
  connected _ h := nomatch h
  tty h := absurd rfl h

/-- Every move that `Does` lists keeps the monitor sound, for the status that it published last. -/
theorem Sound.does (h : Sound accept s last) {result : ZwaveMonitorState × List DongleStatus}
    (hdoes : Does accept s input result) :
    Sound accept result.1 (result.2.getLast?.or last) := by
  -- Only while the thread scans are there entries left, which are accepted ones.
  have hentry (entry : AcceptedDongle) : entry ∈ ([] : List AcceptedDongle) →
      entry ∈ accept := fun hmem => absurd hmem List.not_mem_nil
  cases hdoes with
  | plug device hname =>
    refine h.around (fun devpath hother => ?_) (fun devpath word hsaid => ?_) (fun other hmem => ?_)
      fun other hmem _ => (List.mem_orderedInsert _).mpr (Or.inr hmem)
    -- Of another path the report says nothing, and the device is plugged in there or not as before.
    · rw [about_add] at hother
      have hne : device.devpath ≠ devpath := fun heq => by rw [if_pos heq] at hother; cases hother
      simp [Plugged, List.mem_orderedInsert, hne]
    -- Of its own path the last word is now that there is a device, and there is.
    · rw [about_add] at hsaid
      split at hsaid
      · next hsame =>
        cases hsaid
        exact iff_of_true rfl
          ⟨device, (List.mem_orderedInsert _).mpr (Or.inl rfl), hsame⟩
      · cases hsaid
    · rcases (List.mem_orderedInsert _).mp hmem with rfl | hmem
      · exact hname
      · exact h.named other hmem
  | unplug path hplugged =>
    refine h.around (fun devpath hother => ?_) (fun devpath word hsaid => ?_)
      (fun other hmem => h.named other (List.mem_filter.mp hmem).1) fun other hmem hstays => ?_
    -- Another path keeps its device.
    · rw [about_remove] at hother
      have hne : path ≠ devpath := fun heq => by rw [if_pos heq] at hother; cases hother
      constructor
      · rintro ⟨device, hmem, hpath⟩
        exact ⟨device, (List.mem_filter.mp hmem).1, hpath⟩
      · rintro ⟨device, hmem, hpath⟩
        refine ⟨device, List.mem_filter.mpr ⟨hmem, decide_eq_true ?_⟩, hpath⟩
        rw [hpath]
        exact hne.symm
    -- Of the path that is left, the last word is that there is no device, and there is none.
    · rw [about_remove] at hsaid
      split at hsaid
      · next hsame =>
        cases hsaid
        refine iff_of_false Bool.false_ne_true ?_
        rintro ⟨device, hmem, hpath⟩
        exact of_decide_eq_true (List.mem_filter.mp hmem).2 (hpath.trans hsame.symm)
      · cases hsaid
    -- A device that the report does not say to have gone is still there.
    · refine List.mem_filter.mpr ⟨hmem, decide_eq_true fun hpath => hstays ?_⟩
      rw [about_remove, if_pos hpath.symm]
  | ttys ttys =>
    exact ⟨h.deaf, h.word, h.named, h.entries, h.unset, h.target, h.path, h.connected, h.tty⟩
  -- A report that says nothing of any path changes nothing.
  | change event hother =>
    refine h.around (fun _ _ => Iff.rfl) (fun devpath word hsaid => ?_) h.named fun _ hmem _ => hmem
    rw [hother devpath] at hsaid
    cases hsaid
  | report event delayed hdelayed => exact h.report hdelayed
  | begins ready hstage =>
    exact h.goes (by rw [hstage]; nofun) (Or.inr ⟨rfl, trivial⟩) hentry
      (fun _ => h.unset (by rw [hstage]; trivial))
      (Or.inl (target_eq (by rw [hstage]; exact id)).symm) False.elim
  | listens hstage =>
    exact h.goes (by rw [hstage]; nofun) (Or.inl rfl) (fun _ hmem => hmem)
      (fun _ => h.unset (by rw [hstage]; trivial))
      (Or.inl (target_eq (by rw [hstage]; exact id)).symm) False.elim
  | exits ready hstage =>
    have hidle : ¬ s.stage.Aims ∧ s.stage ≠ .announcing := by
      rcases hstage with ⟨hstage, -⟩ | ⟨hstage, -⟩ <;> rw [hstage] <;> exact ⟨id, nofun⟩
    exact h.goes hidle.2 (Or.inr ⟨rfl, trivial⟩) hentry False.elim
      (Or.inl (target_eq hidle.1).symm) False.elim
  | passes ready entry rest hstage hnone =>
    refine h.goes (by rw [hstage]; nofun) (Or.inl (h.hears (by rw [hstage]; exact id)))
      (fun other hmem => h.entries other ?_) (fun _ => h.unset (by rw [hstage]; trivial))
      (Or.inl (target_eq (by rw [hstage]; exact id)).symm) False.elim
    rw [hstage]
    exact List.mem_cons_of_mem _ hmem
  | finds ready entry rest device hstage hmem hnames =>
    -- The device that was found is an accepted dongle, since the entry is one of those accepted.
    refine h.goes (by rw [hstage]; nofun) (Or.inl (h.hears (by rw [hstage]; exact id))) hentry
      (fun _ => h.unset (by rw [hstage]; trivial))
      (Or.inr (Or.inr ⟨device, hmem, rfl, entry, h.entries entry ?_, hnames⟩)) False.elim
    rw [hstage]
    exact List.mem_cons_self
  | opens ready devpath hstage hplugged =>
    -- The path was plugged in when it was opened, and no device has an empty path.
    refine h.goes (by rw [hstage]; nofun) (Or.inl (h.hears (by rw [hstage]; exact id))) hentry
      False.elim (Or.inl ?_) fun _ => ?_
    · rw [ZwaveMonitorState.target, hstage]
      rfl
    · obtain ⟨device, hmem, hpath⟩ := hplugged
      change devpath ≠ ""
      rw [← hpath]
      exact h.named device hmem
  | loops ready hstage =>
    refine h.goes ?_ (Or.inl (h.hears ?_)) hentry False.elim ?_ False.elim
    -- Back to the loop from one of three stages: a publication that is done, a path that was gone
    -- when it was opened, or a wait without a report.
    · rcases hstage with hstage | ⟨devpath, hstage, -⟩ | ⟨hstage, -⟩ <;> rw [hstage] <;> nofun
    · rcases hstage with hstage | ⟨devpath, hstage, -⟩ | ⟨hstage, -⟩ <;> rw [hstage] <;> exact id
    · rcases hstage with hstage | ⟨devpath, hstage, -⟩ | ⟨hstage, -⟩
      · exact Or.inl (target_eq (by rw [hstage]; exact id)).symm
      -- The path that was gone had not been tracked, and nothing else is.
      · exact Or.inr (Or.inl (h.unset (by rw [hstage]; trivial)))
      · exact Or.inl (target_eq (by rw [hstage]; exact id)).symm
  | tracks ready devpath hstage => exact h.tracks hstage _
  | announces ready hstage => exact h.announces hstage
  | selects ready hstage hrunning =>
    exact h.goes (by rw [hstage]; nofun) (Or.inl (h.hears (by rw [hstage]; exact id))) hentry
      False.elim (Or.inl (target_eq (by rw [hstage]; exact id)).symm) False.elim
  | adds devpath event events hstage hevents habout hdongle =>
    -- The report says that the device has come, so it does not say that the target has gone.
    have hreceived := h.receives hevents fun _ => about_ne_of_about habout
    refine hreceived.goes (by rw [hstage]; nofun)
      (Or.inl (h.hears (by rw [hstage]; exact id))) hentry False.elim
      (Or.inr (Or.inr hdongle)) fun _ => ?_
    obtain ⟨device, hmem, hpath, -⟩ := hdongle
    change devpath ≠ ""
    rw [← hpath]
    exact h.named device hmem
  | removes event events hstage hevents htracked habout => exact h.removes hevents
  | ignores event events hstage hevents hnone hother =>
    -- The report is not about the tracked dongle, or there is none.
    have htarget : s.target = s.trackedDevpath := target_eq (by rw [hstage]; exact id)
    have hreceived := h.receives hevents fun hne => by
      rw [htarget] at hne ⊢
      exact hother.resolve_left hne
    exact hreceived.goes (by rw [hstage]; nofun) (Or.inl (h.hears (by rw [hstage]; exact id)))
      hentry False.elim (Or.inl htarget.symm) False.elim
  | destroys hdestructor =>
    exact ⟨h.deaf, h.word, h.named, h.entries, h.unset, h.target, h.path, h.connected, h.tty⟩
  | joins hdestructor hexited =>
    exact ⟨h.deaf, h.word, h.named, h.entries, h.unset, h.target, h.path, h.connected, h.tty⟩

/-! ## What is plugged in is announced -/

/-- No more than one accepted dongle is plugged in. -/
def Single (accept : List AcceptedDongle) (s : ZwaveMonitorState) : Prop :=
  ∀ device ∈ s.usb, Accepted accept device → ∀ other ∈ s.usb, Accepted accept other →
    device.devpath = other.devpath

instance : Decidable (Single accept s) := inferInstanceAs (Decidable (∀ _ ∈ _, _))

/-- With at most one accepted dongle plugged in, two paths of dongles are the same. -/
theorem Single.eq (h : Single accept s) {devpath other : String}
    (hdongle : s.IsZWaveDongle accept devpath) (hother : s.IsZWaveDongle accept other) :
    devpath = other := by
  obtain ⟨device, hmem, rfl, haccepted⟩ := hdongle
  obtain ⟨device', hmem', rfl, haccepted'⟩ := hother
  exact h device hmem haccepted device' hmem' haccepted'

/-- When the tty of a dongle is looked for, it is there, unless the dongle has gone. -/
def Ready (accept : List AcceptedDongle) (s : ZwaveMonitorState) : Prop :=
  s.stage = .tracking s.target → s.IsZWaveDongle accept s.target →
    s.findAttachedTtyNode s.target ≠ ""

instance : Decidable (Ready accept s) := inferInstanceAs (Decidable (_ → _ → _))

/-- Why a dongle that is plugged in will be tracked, or is. -/
inductive Awaited (s : ZwaveMonitorState) (devpath : String) : Prop
  /-- The thread has yet to look for it, or is over. -/
  | deaf : s.stage.Deaf → Awaited s devpath
  /-- The report that it has come is the last of it. -/
  | said : lastWord devpath s.pending = some true → Awaited s devpath
  /-- One of the entries that are left names it. -/
  | entry (device : UsbDevice) (entry : AcceptedDongle) : device ∈ s.usb →
    device.devpath = devpath → entry ∈ s.stage.entries → Names entry device → Awaited s devpath
  /-- It is tracked, or about to be. -/
  | target : s.target = devpath → Awaited s devpath

/-- What holds after every run in which the dongles are single, and their ttys ready. -/
structure Found (accept : List AcceptedDongle) (s : ZwaveMonitorState) : Prop where
  /-- No dongle is missed. -/
  looked : ∀ devpath, s.IsZWaveDongle accept devpath → Awaited s devpath
  /-- One that is tracked has a tty, unless there is a report to come that it has gone. -/
  tty : ¬ s.stage.Aims → s.trackedDevpath ≠ "" →
    (∀ event ∈ s.pending, event.about s.trackedDevpath ≠ some false) → s.trackedTtyNode ≠ ""

/-- Before it starts, the monitor misses no dongle: it has yet to look for one. -/
theorem Found.initial (accept : List AcceptedDongle) : Found accept {} where
  looked _ _ := .deaf trivial
  tty _ h := absurd rfl h

/-- What is said after a report that says something else. -/
theorem lastWord_tail {devpath : String} (event : UdevEvent)
    (h : lastWord devpath (event :: events) = some true)
    (hne : event.about devpath ≠ some true) : lastWord devpath events = some true := by
  rw [lastWord_cons] at h
  rcases Option.or_eq_some_iff.mp h with h | ⟨-, h⟩
  · exact h
  · exact absurd h hne

/-- What is plugged in or unplugged is looked for or reported, so no dongle is missed around the
thread. -/
theorem Found.around (h : Found accept s) {usb : List UsbDevice}
    (husb : ∀ device ∈ usb, event.about device.devpath = some true ∨
      event.about device.devpath = none ∧ device ∈ s.usb)
    (hkept : ∀ device ∈ s.usb, event.about device.devpath = none → device ∈ usb) :
    Found accept { s with usb, delayed := s.delayed ++ [event] } where
  looked devpath hdongle := by
    obtain ⟨device, hmem, rfl, haccepted⟩ := hdongle
    -- The dongle has just been plugged in, and its report will say so; or it was there before, and
    -- what it was awaited for still holds.
    rcases husb device hmem with hsaid | ⟨hother, hmem⟩
    · refine .said ((lastWord_delayed s device.devpath event).trans ?_)
      rw [hsaid]
      rfl
    · cases h.looked device.devpath ⟨device, hmem, rfl, haccepted⟩ with
      | deaf hstage => exact .deaf hstage
      | said hsaid =>
        refine .said ((lastWord_delayed s device.devpath event).trans ?_)
        rw [hother, hsaid]
        rfl
      | entry other entry hmem' hpath hentry hnames =>
        exact .entry other entry (hkept other hmem' (by rw [hpath, hother])) hpath hentry hnames
      | target htarget => exact .target htarget
  tty hstage htracked hkept :=
    h.tty hstage htracked fun other hother => hkept other (mem_delayed hother)

/-- A report that reaches the monitor, or is lost while it is deaf, makes it miss no dongle: a deaf
thread has yet to look. -/
theorem Found.report (h : Found accept s) (hsound : Sound accept s last)
    {delayed : List UdevEvent} (hdelayed : s.delayed = event :: delayed) :
    Found accept { s with delayed, events := s.reported event } := by
  cases hlistening : s.listening with
  | false =>
    obtain ⟨hstage, -, htracked⟩ := hsound.deaf hlistening
    exact ⟨fun _ _ => .deaf hstage, fun _ hne => absurd htracked hne⟩
  | true =>
    have hpending := pending_reported hlistening hdelayed
    refine ⟨fun devpath hdongle => ?_, fun hstage htracked hkept => h.tty hstage htracked ?_⟩
    · cases h.looked devpath hdongle with
      | deaf hstage => exact .deaf hstage
      | said hsaid =>
        rw [← hpending] at hsaid
        exact .said hsaid
      | entry device entry hmem hpath hentry hnames =>
        exact .entry device entry hmem hpath hentry hnames
      | target htarget => exact .target htarget
    · rw [← hpending]
      exact hkept

/-- The thread goes on to another stage, and receives nothing. -/
theorem Found.goes (h : Found accept s) {stage : Stage} {listening running : Bool}
    (hlooked : ∀ devpath, s.IsZWaveDongle accept devpath → Awaited s devpath →
      Awaited { s with stage, listening, running } devpath)
    (htty : ¬ stage.Aims → ¬ s.stage.Aims ∨ s.trackedDevpath = "") :
    Found accept { s with stage, listening, running } where
  looked devpath hdongle := hlooked devpath hdongle (h.looked devpath hdongle)
  tty hstage htracked hkept := (htty hstage).elim (h.tty · htracked hkept) (absurd · htracked)

section Awaited

variable {devpath : String}

/-- Where the thread neither waits for the monitor nor looks for a dongle. -/
theorem Awaited.said_or_target (h : Awaited s devpath) (hdeaf : ¬ s.stage.Deaf)
    (hentries : s.stage.entries = []) :
    lastWord devpath s.pending = some true ∨ s.target = devpath := by
  cases h with
  | deaf hstage => exact absurd hstage hdeaf
  | said hsaid => exact Or.inl hsaid
  | entry device entry hmem hpath hentry hnames =>
    rw [hentries] at hentry
    exact absurd hentry List.not_mem_nil
  | target hsame => exact Or.inr hsame

/-- A dongle that is awaited still is when the thread goes on with the same target and is past
looking. -/
theorem Awaited.goes (h : Awaited s devpath) {stage : Stage} {listening running : Bool}
    (hdeaf : ¬ s.stage.Deaf) (hentries : s.stage.entries = [])
    (htarget : stage.target s.trackedDevpath = s.target) :
    Awaited { s with stage, listening, running } devpath :=
  (h.said_or_target hdeaf hentries).elim (fun hsaid => .said hsaid) fun hsame =>
    .target (htarget.trans hsame)

/-- Whether a dongle is still awaited does not depend on the ttys, the flag or the destructor. -/
theorem Awaited.aside (h : Awaited s devpath) (ttys : List Tty) (running : Bool)
    (destructor : Destructor) : Awaited { s with ttys, running, destructor } devpath := by
  cases h with
  | deaf hstage => exact .deaf hstage
  | said hsaid => exact .said hsaid
  | entry device entry hmem hpath hentry hnames =>
    exact .entry device entry hmem hpath hentry hnames
  | target htarget => exact .target htarget

end Awaited

/-- The thread goes on to a stage that is about no dongle, from one that is about none. -/
theorem Found.idles (h : Found accept s) {stage : Stage} (hdeaf : ¬ s.stage.Deaf)
    (hentries : s.stage.entries = []) (haims : ¬ s.stage.Aims)
    (hstage : stage.target s.trackedDevpath = s.trackedDevpath) :
    Found accept { s with stage } :=
  h.goes (fun _ _ hawaited => hawaited.goes hdeaf hentries (hstage.trans (target_eq haims).symm))
    fun _ => Or.inl haims

/-- What one step keeps, when the dongles are single and their ttys ready before it. -/
theorem Found.does (h : Found accept s) (hsound : Sound accept s last)
    (hsingle : Single accept s) (hready : Ready accept s)
    {result : ZwaveMonitorState × List DongleStatus} (hdoes : Does accept s input result) :
    Found accept result.1 := by
  cases hdoes with
  -- The device that is plugged in will be reported. All others stay, and nothing is said of them.
  | plug device hname =>
    refine h.around (fun other hmem => ?_) fun other hmem _ =>
      (List.mem_orderedInsert _).mpr (Or.inr hmem)
    rw [about_add]
    rcases (List.mem_orderedInsert _).mp hmem with rfl | hmem
    · rw [if_pos rfl]
      exact Or.inl rfl
    · split
      · exact Or.inl rfl
      · exact Or.inr ⟨rfl, hmem⟩
  -- A device that stays is not the one that is unplugged, so its path is another.
  | unplug path hplugged =>
    refine h.around (fun other hmem => Or.inr ?_) fun other hmem hother => ?_
    · obtain ⟨hmem, hpath⟩ := List.mem_filter.mp hmem
      rw [about_remove, if_neg (of_decide_eq_true hpath).symm]
      exact ⟨rfl, hmem⟩
    · refine List.mem_filter.mpr ⟨hmem, decide_eq_true fun hpath => ?_⟩
      rw [about_remove, if_pos hpath.symm] at hother
      cases hother
  | ttys ttys =>
    exact ⟨fun devpath hdongle => (h.looked devpath hdongle).aside ttys s.running s.destructor,
      h.tty⟩
  | change event hother =>
    exact h.around (fun other hmem => Or.inr ⟨hother other.devpath, hmem⟩) fun other hmem _ => hmem
  | report event delayed hdelayed => exact h.report hsound hdelayed
  | begins ready hstage =>
    exact h.goes (fun _ _ _ => .deaf trivial) fun _ => Or.inl (by rw [hstage]; exact id)
  | listens hstage =>
    -- The thread looks for the dongle only from here on: it is named by one of the entries.
    refine h.goes (fun devpath hdongle _ => ?_) fun _ => Or.inl (by rw [hstage]; exact id)
    obtain ⟨device, hmem, hpath, entry, hentry, hnames⟩ := hdongle
    exact .entry device entry hmem hpath hentry hnames
  | exits ready hstage =>
    refine h.goes (fun _ _ _ => .deaf trivial) fun _ => Or.inl ?_
    rcases hstage with ⟨hstage, -⟩ | ⟨hstage, -⟩ <;> rw [hstage] <;> exact id
  | passes ready entry rest hstage hnone =>
    -- An entry that names the dongle is not the one that was passed over.
    refine h.goes (fun devpath _ hawaited => ?_) fun _ => Or.inl (by rw [hstage]; exact id)
    cases hawaited with
    | deaf hdeaf =>
      rw [hstage] at hdeaf
      exact hdeaf.elim
    | said hsaid => exact .said hsaid
    | entry device other hmem hpath hentry hnames =>
      rw [hstage] at hentry
      rcases List.mem_cons.mp hentry with rfl | hentry
      · exact absurd hnames (hnone device hmem)
      · exact .entry device other hmem hpath hentry hnames
    | target htarget =>
      exact .target ((target_eq (s := s) (by rw [hstage]; exact id)).symm.trans htarget)
  | finds ready entry rest device hstage hmem hnames =>
    -- The one that was found is the only one.
    refine h.goes (fun devpath hdongle _ => .target ?_) fun haims => absurd trivial haims
    have hentry : entry ∈ accept := hsound.entries entry (by rw [hstage]; exact List.mem_cons_self)
    exact hsingle.eq ⟨device, hmem, rfl, entry, hentry, hnames⟩ hdongle
  | opens ready path hstage hplugged =>
    -- The target stays the path that is opened.
    refine h.goes (fun devpath _ hawaited => hawaited.goes ?_ ?_ ?_) fun haims =>
      absurd trivial haims
    · rw [hstage]
      exact id
    · rw [hstage]
      rfl
    · rw [ZwaveMonitorState.target, hstage]
      rfl
  | loops ready hstage =>
    -- Where the path to be opened is gone, the thread goes back without a target. A dongle that is
    -- there was not that path, so it has been said to have come.
    rcases hstage with hstage | ⟨path, hstage, hgone⟩ | ⟨hstage, -⟩
    · exact h.idles (by rw [hstage]; exact id) (by rw [hstage]; rfl) (by rw [hstage]; exact id) rfl
    · refine h.goes (fun devpath hdongle hawaited => ?_) fun _ =>
        Or.inr (hsound.unset (by rw [hstage]; trivial))
      rcases hawaited.said_or_target (by rw [hstage]; exact id) (by rw [hstage]; rfl) with
        hsaid | htarget
      · exact .said hsaid
      · -- It has gone, and with it the dongle.
        rw [ZwaveMonitorState.target, hstage] at htarget
        obtain ⟨device, hmem, hpath, -⟩ := hdongle
        exact absurd ⟨device, hmem, hpath.trans htarget.symm⟩ hgone
    · exact h.idles (by rw [hstage]; exact id) (by rw [hstage]; rfl) (by rw [hstage]; exact id) rfl
  | tracks ready path hstage =>
    have htarget : s.target = path := by rw [ZwaveMonitorState.target, hstage]; rfl
    -- The tty of the dongle is looked for here, and is there unless the dongle has gone.
    refine ⟨fun devpath hdongle => ?_, fun _ htracked hkept => ?_⟩
    · rcases (h.looked devpath hdongle).said_or_target (by rw [hstage]; exact id)
        (by rw [hstage]; rfl) with hsaid | hsame
      · exact .said hsaid
      · exact .target (htarget.symm.trans hsame)
    · have hdongle := hsound.target
      rw [Ready, htarget] at hready
      rw [htarget] at hdongle
      exact hready hstage (hdongle htracked hkept)
  | announces ready hstage =>
    exact h.idles (by rw [hstage]; exact id) (by rw [hstage]; rfl) (by rw [hstage]; exact id) rfl
  | selects ready hstage hrunning =>
    exact h.idles (by rw [hstage]; exact id) (by rw [hstage]; rfl) (by rw [hstage]; exact id) rfl
  | adds path event events hstage hevents habout hdongle =>
    -- The device that has come is the only dongle.
    exact ⟨fun devpath hother => .target (hsingle.eq hdongle hother),
      fun haims => absurd trivial haims⟩
  | removes event events hstage hevents htracked habout =>
    -- The tracked dongle has gone. One that is there was said to have come, or is the same path
    -- again.
    refine ⟨fun devpath hdongle => .said ?_, fun _ htracked => absurd rfl htracked⟩
    have htarget : s.target = s.trackedDevpath := target_eq (by rw [hstage]; exact id)
    refine lastWord_tail event ?_ (about_ne_of_about habout)
    rcases (h.looked devpath hdongle).said_or_target (by rw [hstage]; exact id)
      (by rw [hstage]; rfl) with hsaid | hsame
    · rw [pending_eq hevents] at hsaid
      exact hsaid
    · -- It is plugged in again, and that has been said.
      obtain ⟨device, hmem, hpath, -⟩ := hdongle
      have hsome : ∃ word, lastWord devpath s.pending = some word := by
        rw [pending_eq hevents, lastWord_cons, ← hsame, htarget, habout]
        cases lastWord s.trackedDevpath ({ s with events } : ZwaveMonitorState).pending with
        | none => exact ⟨false, rfl⟩
        | some word => exact ⟨word, rfl⟩
      obtain ⟨word, hword⟩ := hsome
      change lastWord devpath (event :: ({ s with events } : ZwaveMonitorState).pending) = some true
      rw [← pending_eq hevents, hword, (hsound.word devpath word hword).mpr ⟨device, hmem, hpath⟩]
  | ignores event events hstage hevents hnone hother =>
    have htarget : s.target = s.trackedDevpath := target_eq (by rw [hstage]; exact id)
    refine ⟨fun devpath hdongle => ?_, fun _ htracked hkept => ?_⟩
    -- The report that is ignored is not that a dongle has come, for it would not have been ignored
    -- then.
    · rcases (h.looked devpath hdongle).said_or_target (by rw [hstage]; exact id)
        (by rw [hstage]; rfl) with hsaid | hsame
      · rw [pending_eq hevents] at hsaid
        exact .said (lastWord_tail event hsaid fun habout => hnone devpath habout hdongle)
      · exact .target (htarget.symm.trans hsame)
    · refine h.tty (by rw [hstage]; exact id) htracked fun other hmem => ?_
      rw [pending_eq hevents] at hmem
      rcases List.mem_cons.mp hmem with rfl | hmem
      · exact hother.resolve_left htracked
      · exact hkept other hmem
  | destroys hdestructor =>
    exact ⟨fun devpath hdongle => (h.looked devpath hdongle).aside s.ttys false .joining, h.tty⟩
  | joins hdestructor hexited =>
    exact ⟨fun _ _ => .deaf (by rw [hexited]; trivial), h.tty⟩

/-! ## The thread comes to rest -/

/-- The thread waits, and has handled all that has been reported. -/
def AtRest (s : ZwaveMonitorState) : Prop := s.stage = .selecting ∧ s.pending = []

instance : Decidable (AtRest s) := inferInstanceAs (Decidable (_ ∧ _))

/-- The steps that the thread can take before it rests. -/
def work (accept : List AcceptedDongle) (s : ZwaveMonitorState) : ℕ :=
  4 * s.events.length + match s.stage with
    | .created => accept.length + 7
    | .settingUp => accept.length + 6
    | .scanning rest => rest.length + 5
    | .opening _ => 4
    | .tracking _ => 3
    | .announcing => 2
    | .atLoop => 1
    | .selecting | .exited => 0

/-- The thread is not over, and all has been reported to it. -/
structure Runs (s : ZwaveMonitorState) : Prop where
  /-- udev has reported everything. -/
  delayed : s.delayed = []
  /-- The destructor has not been called, or not been seen. -/
  running : s.running = true
  /-- The thread has not returned. -/
  stage : s.stage ≠ .exited

/-- A step of the thread leaves it less to do. -/
theorem Runs.proceed (accept : List AcceptedDongle) (h : Runs s) (hrest : ¬ AtRest s) :
    Runs (s.proceed accept true).1 ∧ (s.proceed accept true).1.work accept < s.work accept := by
  have hdoes := (proceed_cases accept s true).resolve_left h.stage
  generalize s.proceed accept true = result at hdoes ⊢
  -- Every move but those that wait or leave the loop comes nearer to a publication or takes a
  -- report. Those are excluded, as the thread runs and is not at rest.
  cases hdoes with
  | begins ready hstage => exact ⟨⟨h.delayed, rfl, nofun⟩, by simp [work, hstage]⟩
  | listens hstage => exact ⟨⟨h.delayed, h.running, nofun⟩, by simp [work, hstage]⟩
  | exits ready hstage =>
    rcases hstage with ⟨-, hready⟩ | ⟨-, hover⟩
    · cases hready
    · rw [h.running] at hover
      cases hover
  | passes ready entry rest hstage hnone =>
    exact ⟨⟨h.delayed, h.running, nofun⟩, by simp [work, hstage]⟩
  | finds ready entry rest device hstage hmem hnames =>
    exact ⟨⟨h.delayed, h.running, nofun⟩, by simp [work, hstage]⟩
  | opens ready devpath hstage hplugged =>
    exact ⟨⟨h.delayed, h.running, nofun⟩, by simp [work, hstage]⟩
  | loops ready hstage =>
    refine ⟨⟨h.delayed, h.running, nofun⟩, ?_⟩
    rcases hstage with hstage | ⟨devpath, hstage, -⟩ | ⟨hstage, hnone⟩
    · simp [work, hstage]
    · simp [work, hstage]
    -- Nothing is left to be received, so the thread would have been at rest.
    · refine absurd ⟨hstage, ?_⟩ hrest
      rw [pending, hnone rfl, h.delayed]
      rfl
  | tracks ready devpath hstage => exact ⟨⟨h.delayed, h.running, nofun⟩, by simp [work, hstage]⟩
  | announces ready hstage => exact ⟨⟨h.delayed, h.running, nofun⟩, by simp [work, hstage]⟩
  | selects ready hstage hrunning => exact ⟨⟨h.delayed, h.running, nofun⟩, by simp [work, hstage]⟩
  | adds devpath event events hstage hevents habout hdongle =>
    exact ⟨⟨h.delayed, h.running, nofun⟩, by simp [work, hstage, hevents]; omega⟩
  | removes event events hstage hevents htracked habout =>
    exact ⟨⟨h.delayed, h.running, nofun⟩, by simp [work, hstage, hevents]; omega⟩
  | ignores event events hstage hevents hnone hother =>
    exact ⟨⟨h.delayed, h.running, nofun⟩, by simp [work, hstage, hevents]; omega⟩

/-- Left alone, a thread that runs comes to rest. -/
theorem monitor_rests (h : Runs s) : ∃ n ≤ s.work accept,
    AtRest (exec (step accept) s (List.replicate n (.proceed true))) := by
  induction hwork : s.work accept using Nat.strongRecOn generalizing s with
  | ind k ih =>
    by_cases hrest : AtRest s
    · exact ⟨0, Nat.zero_le k, hrest⟩
    · obtain ⟨hruns, hless⟩ := h.proceed accept hrest
      obtain ⟨n, hn, hends⟩ := ih _ (hwork ▸ hless) hruns rfl
      exact ⟨n + 1, by omega, hends⟩

/-! ## Over a run -/

/-- After every run the last status is sound. -/
theorem monitor_sound (accept : List AcceptedDongle) (inputs : List Input) :
    Sound accept (exec (step accept) {} inputs) (emitted (step accept) {} inputs).getLast? := by
  refine emitted_induction (step accept) {} (I := fun out s => Sound accept s out.getLast?)
    (Sound.initial accept) (fun out s input h => ?_) inputs
  rw [List.getLast?_append]
  rcases step_cases accept s input with hnothing | hdoes
  · rw [hnothing]
    exact h
  · exact h.does hdoes

/-- After every run in which the dongles are single and their ttys ready, none is missed. -/
theorem monitor_found (accept : List AcceptedDongle) (inputs : List Input)
    (hall : ∀ t ∈ trace (step accept) {} inputs, Single accept t.before ∧ Ready accept t.before) :
    Found accept (exec (step accept) {} inputs) := by
  induction inputs using List.reverseRecOn with
  | nil => exact Found.initial accept
  | append_singleton inputs input ih =>
    rw [trace_concat] at hall
    have hfound := ih fun t ht => hall t (List.mem_append_left _ ht)
    obtain ⟨hsingle, hready⟩ := hall _ (List.mem_append_right _ (List.mem_singleton_self _))
    rw [exec_concat]
    rcases step_cases accept (exec (step accept) {} inputs) input with hnothing | hdoes
    · rw [hnothing]
      exact hfound
    · exact hfound.does (monitor_sound accept inputs) hsingle hready hdoes

/-- Whatever is plugged in and unplugged, and whenever: once the thread has handled all that has
been reported, a dongle that was announced last is plugged in, where it is tracked; and if there
never was more than one at a time, and its tty was there when it was looked for, every dongle that
is plugged in is the one that is tracked, and was announced last, with a tty. -/
theorem monitor_follows (accept : List AcceptedDongle) (inputs : List Input)
    (hrest : AtRest (exec (step accept) {} inputs)) :
    (∀ ttyPath, (emitted (step accept) {} inputs).getLast? = some ⟨true, ttyPath⟩ →
      (exec (step accept) {} inputs).IsZWaveDongle accept
        (exec (step accept) {} inputs).trackedDevpath) ∧
    ((∀ t ∈ trace (step accept) {} inputs, Single accept t.before ∧ Ready accept t.before) →
      ∀ devpath, (exec (step accept) {} inputs).IsZWaveDongle accept devpath →
        (exec (step accept) {} inputs).trackedDevpath = devpath ∧
          (exec (step accept) {} inputs).trackedTtyNode ≠ "" ∧
          (emitted (step accept) {} inputs).getLast? =
            some ⟨true, (exec (step accept) {} inputs).trackedTtyNode⟩) := by
  have hsound := monitor_sound accept inputs
  have hfound := monitor_found accept inputs
  generalize exec (step accept) {} inputs = s at hrest hsound hfound ⊢
  obtain ⟨hstage, hpending⟩ := hrest
  have haims : ¬ s.stage.Aims := by rw [hstage]; exact id
  have htarget : s.target = s.trackedDevpath := target_eq haims
  have hquiet (devpath : String) : ∀ event ∈ s.pending, event.about devpath ≠ some false := by
    rw [hpending]
    exact fun _ h => absurd h List.not_mem_nil
  -- At rest there is no report to come, so what is right but for the reports to come is right.
  constructor
  · intro ttyPath hlast
    have hdongle := hsound.target
    rw [htarget] at hdongle
    exact hdongle (hsound.connected ttyPath hlast) (hquiet s.trackedDevpath)
  · intro hall devpath hdongle
    -- Nothing is left to be said of the dongle, so it is the target.
    have htracked : s.trackedDevpath = devpath := by
      rcases ((hfound hall).looked devpath hdongle).said_or_target (by rw [hstage]; exact id)
        (by rw [hstage]; rfl) with hsaid | hsame
      · rw [hpending] at hsaid
        cases hsaid
      · exact htarget.symm.trans hsame
    have hne : s.trackedDevpath ≠ "" := by
      obtain ⟨device, hmem, hpath, -⟩ := hdongle
      rw [htracked, ← hpath]
      exact hsound.named device hmem
    have htty := (hfound hall).tty haims hne (hquiet s.trackedDevpath)
    exact ⟨htracked, htty, (hsound.tty htty).resolve_left (by rw [hstage]; nofun)⟩

/-- A dongle that is plugged in before the thread begins is replaced by another one, and the thread
has not yet seen the first one go when it is there. -/
def replacedRun : List Input :=
  [.plug ⟨"/usb1", some "0658".toList, some "0200".toList⟩, .report,
    .ttys [⟨"/sys/usb1/tty", some "/dev/ttyACM0"⟩, ⟨"/sys/usb2/tty", some "/dev/ttyACM1"⟩]] ++
  List.replicate 7 (.proceed true) ++
  [.unplug "/usb1", .plug ⟨"/usb2", some "0658".toList, some "0200".toList⟩, .report, .report] ++
  List.replicate 6 (.proceed true)

/-- A dongle replaced by another under a new path: the thread ends up tracking the new one, and the
last status published names its tty. -/
theorem monitor_follows_replaced :
    (exec (step [defaultDongle]) {} replacedRun).trackedDevpath = "/usb2" ∧
      "/dev/ttyACM1" ≠ "" ∧
      (emitted (step [defaultDongle]) {} replacedRun).getLast? = some ⟨true, "/dev/ttyACM1"⟩ :=
  (monitor_follows [defaultDongle] replacedRun (by decide)).2 (by decide) "/usb2" (by decide)

end ZwaveMonitorState

end Zwaved.Dongle
