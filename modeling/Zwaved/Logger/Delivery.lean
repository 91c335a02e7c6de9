import Zwaved.Logger.System
import Zwaved.Reactive.Fifo

/-!
# What becomes of what is logged

Entries leave the queue in the order in which they came, and a caller's entries come in the order in
which it logged them; that holds in every run (`fifo_run`, `caller_run`). The rest is about runs in
which the daemon keeps to what the destructor says of its callers (`Orderly`). `Sound` is what then
holds of every state: the consumer is not asleep while there is something for it to do that nobody
is about to tell it (`Sound.asleep`), and a thread that is over has left nothing behind.
`LinesKept` is about the text of a stream: what the reader has logged, and the lines that the rest
of the text makes, are the lines of the whole text, however the reads cut it.
-/

namespace Zwaved.Logger

open Reactive LoggerState

variable {ι : Type}

/-! ## What is seen -/

/-- The entry that is emitted. -/
def Event.emitted? : Event ι → Option LogEntry
  | .emitted entry => some entry
  | _ => none

/-- The entry that is put on the queue. -/
def Event.queued? : Event ι → Option LogEntry
  | .queued _ entry => some entry
  | _ => none

/-- The line that the reader of a stream logs. -/
def Event.line? (stream : Stream) : Event ι → Option Bytes
  | .logged (.inr reader) _ message _ => if reader = stream then some message else none
  | _ => none

/-- The bytes that are written to a stream. -/
def Event.bytesTo (stream : Stream) : Event ι → Bytes
  | .written target bytes => if target = stream then bytes else []
  | _ => []

section Callers

variable [DecidableEq ι]

/-- What a caller puts on the queue. -/
def Event.queuedBy? (caller : Caller ι) : Event ι → Option (Level × Bytes)
  | .queued by' entry => if by' = caller then some (entry.level, entry.message) else none
  | _ => none

/-- What a caller logs that passes the gate. -/
def Event.acceptedBy? (caller : Caller ι) : Event ι → Option (Level × Bytes)
  | .logged by' level message accepted =>
    if by' = caller ∧ accepted then some (level, message) else none
  | _ => none

end Callers

/-- What is in the hands of the consumer. -/
def Consumer.batch : Consumer → List LogEntry
  | .emitting batch => batch
  | _ => []

/-- A notification leaves the messages that the logging thread has taken. -/
@[simp] theorem Consumer.batch_notify (consumer : Consumer) :
    consumer.notify.batch = consumer.batch := by
  cases consumer <;> rfl

/-- What a caller is about to put on the queue. -/
def Producer.inFlight : Producer → List (Level × Bytes)
  | .passed level message => [(level, message)]
  | _ => []

/-- What has been written and not logged. -/
def StreamCapture.unread (capture : StreamCapture) : Bytes := capture.buffer ++ capture.pipe

/-! ## Small lemmas -/

section Fields

variable [DecidableEq ι] (s : LoggerState ι) (caller : Caller ι) (producer : Producer)
  (stream : Stream) (capture : StreamCapture)

/-- Storing a caller's place moves that caller and no other. -/
@[simp] theorem producers_setProducer (c : Caller ι) :
    (s.setProducer caller producer).producers c =
      if c = caller then producer else s.producers c := Function.update_apply ..

/-- Storing a caller's place leaves the captures. -/
@[simp] theorem captures_setProducer : (s.setProducer caller producer).captures = s.captures := rfl

/-- Storing a caller's place leaves the logging thread. -/
@[simp] theorem consumer_setProducer : (s.setProducer caller producer).consumer = s.consumer := rfl

/-- Storing a caller's place leaves the queue. -/
@[simp] theorem queue_setProducer : (s.setProducer caller producer).queue = s.queue := rfl

/-- Storing a caller's place leaves whether the logging thread is to run. -/
@[simp] theorem running_setProducer : (s.setProducer caller producer).running = s.running := rfl

/-- Storing a caller's place leaves how far the destructor has come. -/
@[simp] theorem destructor_setProducer :
    (s.setProducer caller producer).destructor = s.destructor := rfl

omit [DecidableEq ι] in

/-- Storing the state of a captured stream moves that stream and no other. -/
@[simp] theorem captures_setCapture (st : Stream) :
    (s.setCapture stream capture).captures st =
      if st = stream then capture else s.captures st := Function.update_apply ..

omit [DecidableEq ι] in

/-- Storing the state of a captured stream leaves the callers. -/
@[simp] theorem producers_setCapture : (s.setCapture stream capture).producers = s.producers := rfl

omit [DecidableEq ι] in

/-- Storing the state of a captured stream leaves the logging thread. -/
@[simp] theorem consumer_setCapture : (s.setCapture stream capture).consumer = s.consumer := rfl

omit [DecidableEq ι] in

/-- Storing the state of a captured stream leaves the queue. -/
@[simp] theorem queue_setCapture : (s.setCapture stream capture).queue = s.queue := rfl

omit [DecidableEq ι] in

/-- Storing the state of a captured stream leaves whether the logging thread is to run. -/
@[simp] theorem running_setCapture : (s.setCapture stream capture).running = s.running := rfl

omit [DecidableEq ι] in

/-- Storing the state of a captured stream leaves how far the destructor has come. -/
@[simp] theorem destructor_setCapture :
    (s.setCapture stream capture).destructor = s.destructor := rfl

/-- The gate lets a caller pass or not, and nothing else. -/
theorem gate_cases (level : Level) (message : Bytes) :
    (s.gate caller level message = (s, [.logged caller level message false])) ∨
    (s.gate caller level message =
      (s.setProducer caller (.passed level message), [.logged caller level message true])) := by
  unfold gate
  split
  · exact Or.inl rfl
  · exact Or.inr rfl

end Fields

/-! ## What a step can do -/

section Steps

variable [DecidableEq ι]

/-- The reader of a stream can go on. -/
def StreamCapture.goesOn (capture : StreamCapture) : Bool :=
  match capture.stage with
  | .absent | .exited => false
  | .reading => capture.findLine ≠ none ∨ capture.pipe ≠ [] ∨ capture.targetOpen = false
  | .draining => true

/-- The destructor has been called and can go on. -/
def LoggerState.destructorGoesOn (s : LoggerState ι) : Bool :=
  match s.destructor with
  | .alive | .finished => false
  | .joining stream => (s.captures stream).joined
  | .stopping | .notifying => true
  | .joiningConsumer => s.consumer = .exited

/-- The step is one of a thread that can go on by itself: a caller in `log`, a reader, the consumer
or the destructor. -/
def goesOn (t : Taken (LoggerState ι) (Input ι)) : Bool :=
  match t.input with
  | .pushEntry caller _ => t.before.producers caller ≠ .idle
  | .captureReaderLoop stream _ =>
    t.before.producers (.inr stream) = .idle ∧ (t.before.captures stream).goesOn = true
  | .loggerThread => t.before.consumer ≠ .asleep ∧ t.before.consumer ≠ .exited
  | .destroy => t.before.destructorGoesOn
  | _ => false

/-- What a step does, apart from the steps that do nothing. -/
inductive Does (s : LoggerState ι) : Input ι → LoggerState ι × List (Event ι) → Prop
  /-- A thread comes to the gate. -/
  | log {thread level message} (hidle : s.producers (.inl thread) = .idle) :
    Does s (.log thread level message) (s.gate (.inl thread) level message)
  | setMinLevel {level} : Does s (.setMinLevel level) ({ s with minLevel := level }, [])
  | write {stream bytes} (hopen : (s.captures stream).targetOpen = true) :
    Does s (.write stream bytes)
      (s.setCapture stream { s.captures stream with pipe := (s.captures stream).pipe ++ bytes },
        [.written stream bytes])
  | push {caller timestamp level message} (hpassed : s.producers caller = .passed level message) :
    Does s (.pushEntry caller timestamp)
      ({ s.setProducer caller .pushed with queue := s.queue ++ [⟨level, timestamp, message⟩] },
        [.queued caller ⟨level, timestamp, message⟩])
  | notify {caller timestamp} (hpushed : s.producers caller = .pushed) :
    Does s (.pushEntry caller timestamp)
      ({ s.setProducer caller .idle with consumer := s.consumer.notify }, [])
  /-- A newline without a line before it. -/
  | emptyLine {stream got rest} (hidle : s.producers (.inr stream) = .idle)
    (hstage : (s.captures stream).stage = .reading)
    (hline : (s.captures stream).findLine = some ([], rest)) :
    Does s (.captureReaderLoop stream got)
      (s.setCapture stream { s.captures stream with buffer := rest }, [])
  | line {stream got line rest} (hidle : s.producers (.inr stream) = .idle)
    (hstage : (s.captures stream).stage = .reading) (hne : line ≠ [])
    (hline : (s.captures stream).findLine = some (line, rest)) :
    Does s (.captureReaderLoop stream got)
      ((s.setCapture stream { s.captures stream with buffer := rest }).gate (.inr stream)
        (s.captures stream).level line)
  | read {stream got n} (hidle : s.producers (.inr stream) = .idle)
    (hstage : (s.captures stream).stage = .reading)
    (hnone : (s.captures stream).findLine = none) (hpipe : (s.captures stream).pipe ≠ [])
    (hn : 0 < n) :
    Does s (.captureReaderLoop stream got)
      (s.setCapture stream { s.captures stream with
        buffer := (s.captures stream).buffer ++ (s.captures stream).pipe.take n
        pipe := (s.captures stream).pipe.drop n }, [])
  | endOfFile {stream got} (hidle : s.producers (.inr stream) = .idle)
    (hstage : (s.captures stream).stage = .reading)
    (hnone : (s.captures stream).findLine = none) (hpipe : (s.captures stream).pipe = [])
    (hclosed : (s.captures stream).targetOpen = false) :
    Does s (.captureReaderLoop stream got)
      (s.setCapture stream { s.captures stream with stage := .draining }, [])
  | lastLine {stream got} (hidle : s.producers (.inr stream) = .idle)
    (hstage : (s.captures stream).stage = .draining) (hbuffer : (s.captures stream).buffer ≠ []) :
    Does s (.captureReaderLoop stream got)
      ((s.setCapture stream { s.captures stream with buffer := [] }).gate (.inr stream)
        (s.captures stream).level (s.captures stream).buffer)
  | exitReader {stream got} (hidle : s.producers (.inr stream) = .idle)
    (hstage : (s.captures stream).stage = .draining) (hbuffer : (s.captures stream).buffer = []) :
    Does s (.captureReaderLoop stream got)
      (s.setCapture stream { s.captures stream with stage := .exited }, [])
  | readFails {stream} (hidle : s.producers (.inr stream) = .idle)
    (hstage : (s.captures stream).stage = .reading) :
    Does s (.readFails stream)
      (s.setCapture stream { s.captures stream with stage := .draining }, [])
  | sleep (hready : s.consumer = .ready) (hqueue : s.queue = []) (hrunning : s.running = true) :
    Does s .loggerThread ({ s with consumer := .asleep }, [])
  | drain (hready : s.consumer = .ready) (hqueue : s.queue ≠ []) :
    Does s .loggerThread ({ s with
      queue := s.queue.drop queueDrainBatch
      consumer := .emitting (s.queue.take queueDrainBatch) }, [])
  | exitConsumer (hready : s.consumer = .ready) (hqueue : s.queue = [])
    (hrunning : s.running = false) : Does s .loggerThread ({ s with consumer := .exited }, [])
  | emit {entry batch} (hbatch : s.consumer = .emitting (entry :: batch)) :
    Does s .loggerThread ({ s with consumer := .emitting batch }, [.emitted entry])
  | emitted (hbatch : s.consumer = .emitting []) :
    Does s .loggerThread ({ s with consumer := .ready }, [])
  | spuriousWakeUp : Does s .spuriousWakeUp ({ s with consumer := s.consumer.notify }, [])
  | destroy (halive : s.destructor = .alive) :
    Does s .destroy ({ s.closeTarget .stdout with destructor := .joining .stdout }, [])
  | joinStdout (hjoining : s.destructor = .joining .stdout)
    (hjoined : (s.captures .stdout).joined = true) :
    Does s .destroy ({ s.closeTarget .stderr with destructor := .joining .stderr }, [])
  | joinStderr (hjoining : s.destructor = .joining .stderr)
    (hjoined : (s.captures .stderr).joined = true) :
    Does s .destroy ({ s with destructor := .stopping }, [])
  | stop (hstopping : s.destructor = .stopping) :
    Does s .destroy ({ s with running := false, destructor := .notifying }, [])
  | notifyAll (hnotifying : s.destructor = .notifying) :
    Does s .destroy
      ({ s with consumer := s.consumer.notify, destructor := .joiningConsumer }, [])
  | joinConsumer (hjoining : s.destructor = .joiningConsumer) (hexited : s.consumer = .exited) :
    Does s .destroy ({ s with destructor := .finished }, [])

/-- The reader does nothing only while it waits, is in `log` or is not there. -/
theorem captureReaderLoop_cases (s : LoggerState ι) (stream : Stream) (got : ℕ) :
    (s.captureReaderLoop stream got = (s, []) ∧
      goesOn ⟨s, .captureReaderLoop stream got⟩ = false) ∨
      Does s (.captureReaderLoop stream got) (s.captureReaderLoop stream got) := by
  unfold captureReaderLoop
  split
  -- A reader that is between the gate and the queue with its line goes nowhere by itself.
  case isFalse hbusy => exact Or.inl ⟨rfl, by simp [goesOn, hbusy]⟩
  case isTrue hidle =>
    split
    case h_1 hstage | h_2 hstage =>
      exact Or.inl ⟨rfl, by simp [goesOn, StreamCapture.goesOn, hstage]⟩
    case h_3 hstage =>
      -- The reader reads: a line that it holds first, then what is in the pipe.
      unfold readLine
      dsimp only
      split
      case h_1 line rest hline =>
        split
        case isTrue hnil =>
          subst hnil
          exact Or.inr (.emptyLine hidle hstage hline)
        case isFalse hne => exact Or.inr (.line hidle hstage hne hline)
      case h_2 hnone =>
        split
        case isTrue hpipe =>
          -- A `read` that does not fail gets one byte at least.
          have hgot : 0 < min (max got 1) captureChunkBytes := by
            unfold captureChunkBytes
            omega
          exact Or.inr (.read hidle hstage hnone hpipe hgot)
        case isFalse hpipe =>
          split
          case isTrue hopen =>
            have hpipe' : (s.captures stream).pipe = [] := by simpa using hpipe
            exact Or.inl ⟨rfl, by simp [goesOn, StreamCapture.goesOn, hstage, hnone, hpipe', hopen]⟩
          -- Nothing is left to read and no writer has the pipe open, which is the end of the file.
          case isFalse hclosed =>
            exact Or.inr (.endOfFile hidle hstage hnone (by simpa using hpipe)
              (by simpa using hclosed))
    case h_4 hstage =>
      -- The text without a line break at the end of the file is a line as well.
      unfold drainReader
      dsimp only
      split
      case isTrue hbuffer => exact Or.inr (.exitReader hidle hstage hbuffer)
      case isFalse hbuffer => exact Or.inr (.lastLine hidle hstage hbuffer)

/-- The consumer does nothing only while it sleeps or is not there. -/
theorem loggerThread_cases (s : LoggerState ι) :
    (s.loggerThread = (s, []) ∧ goesOn ⟨s, .loggerThread⟩ = false) ∨
      Does s .loggerThread s.loggerThread := by
  unfold loggerThread
  split
  case h_1 hready =>
    split
    -- The predicate of the wait does not hold: the consumer sleeps.
    case isTrue h => exact Or.inr (.sleep hready h.1 h.2)
    case isFalse h =>
      by_cases hqueue : s.queue = []
      -- Awake with an empty queue, it has been told to stop.
      · have hrunning : s.running = false := by simpa [hqueue] using h
        have htake : s.queue.take queueDrainBatch = [] := by rw [hqueue, List.take_nil]
        have hdrop : s.queue.drop queueDrainBatch = s.queue := by rw [hqueue, List.drop_nil]
        dsimp only
        rw [if_pos ⟨htake, by simp [hrunning]⟩, hdrop]
        exact Or.inr (.exitConsumer hready hqueue hrunning)
      · have htake : s.queue.take queueDrainBatch ≠ [] := by
          intro hnil
          rcases List.take_eq_nil_iff.mp hnil with hzero | hnil
          · cases hzero
          · exact hqueue hnil
        dsimp only
        rw [if_neg fun hnil => htake hnil.1]
        exact Or.inr (.drain hready hqueue)
  case h_2 hconsumer | h_3 hconsumer => exact Or.inl ⟨rfl, by simp [goesOn, hconsumer]⟩
  case h_4 hbatch => exact Or.inr (.emitted hbatch)
  case h_5 hbatch => exact Or.inr (.emit hbatch)

/-- The destructor does nothing only while it waits, or is over. -/
theorem destroy_cases (s : LoggerState ι) :
    (s.destroy = s ∧ goesOn ⟨s, .destroy⟩ = false) ∨ Does s .destroy (s.destroy, []) := by
  unfold LoggerState.destroy
  split
  case h_1 halive => exact Or.inr (.destroy halive)
  case h_2 hjoining =>
    -- The destructor waits for the reader that it has closed the target of.
    split
    case isTrue hjoined => exact Or.inr (.joinStdout hjoining hjoined)
    case isFalse hnot =>
      exact Or.inl ⟨rfl, by simp [goesOn, destructorGoesOn, hjoining, hnot]⟩
  case h_3 hjoining =>
    split
    case isTrue hjoined => exact Or.inr (.joinStderr hjoining hjoined)
    case isFalse hnot =>
      exact Or.inl ⟨rfl, by simp [goesOn, destructorGoesOn, hjoining, hnot]⟩
  case h_4 hstopping => exact Or.inr (.stop hstopping)
  case h_5 hnotifying => exact Or.inr (.notifyAll hnotifying)
  case h_6 hjoining =>
    split
    case isTrue hexited => exact Or.inr (.joinConsumer hjoining hexited)
    case isFalse hnot =>
      exact Or.inl ⟨rfl, by simp [goesOn, destructorGoesOn, hjoining, hnot]⟩
  case h_7 hfinished => exact Or.inl ⟨rfl, by simp [goesOn, destructorGoesOn, hfinished]⟩

/-- A step does nothing, and is then of no thread that can go on, or one of these things. -/
theorem step_cases (s : LoggerState ι) (input : Input ι) :
    (step s input = (s, []) ∧ goesOn ⟨s, input⟩ = false) ∨ Does s input (step s input) := by
  cases input with
  | log thread level message =>
    unfold step LoggerState.log
    dsimp only
    split
    case isTrue hidle => exact Or.inr (.log hidle)
    case isFalse => exact Or.inl ⟨rfl, rfl⟩
  | setMinLevel level => exact Or.inr .setMinLevel
  | write stream bytes =>
    unfold step LoggerState.write
    dsimp only
    split
    -- A caller logs only from where it is idle, and what is below the level stops at the gate.
    case isTrue hopen => exact Or.inr (.write hopen)
    case isFalse => exact Or.inl ⟨rfl, rfl⟩
  | pushEntry caller timestamp =>
    unfold step pushEntry
    dsimp only
    split
    case h_1 hidle => exact Or.inl ⟨rfl, by simp [goesOn, hidle]⟩
    case h_2 hpassed => exact Or.inr (.push hpassed)
    case h_3 hpushed => exact Or.inr (.notify hpushed)
  | captureReaderLoop stream got => exact captureReaderLoop_cases s stream got
  | readFails stream =>
    unfold step LoggerState.readFails
    dsimp only
    split
    case isTrue h => exact Or.inr (.readFails h.1 h.2.1)
    case isFalse => exact Or.inl ⟨rfl, rfl⟩
  | loggerThread => exact loggerThread_cases s
  | spuriousWakeUp => exact Or.inr .spuriousWakeUp
  | destroy =>
    rcases destroy_cases s with ⟨hsame, hstays⟩ | hdoes
    · exact Or.inl ⟨by rw [step, hsame], hstays⟩
    · exact Or.inr hdoes

/-! ## In order -/

/-- A step that does something neither loses an entry nor lets one overtake. -/
theorem Does.fifo {s : LoggerState ι} {input : Input ι} {out : LoggerState ι × List (Event ι)}
    (h : Does s input out) :
    s.consumer.batch ++ s.queue ++ out.2.filterMap Event.queued? =
      out.2.filterMap Event.emitted? ++ (out.1.consumer.batch ++ out.1.queue) := by
  cases h with
  | log =>
    rcases gate_cases s _ _ _ with h | h <;> rw [h] <;>
      simp [List.filterMap_cons, Event.queued?, Event.emitted?]
  | line | lastLine =>
    rcases gate_cases (s.setCapture _ _) _ _ _ with h | h <;> rw [h] <;>
      simp [List.filterMap_cons, Event.queued?, Event.emitted?]
  | push => simp [List.filterMap_cons, Event.queued?, Event.emitted?]
  | sleep hready hqueue => simp [hready, Consumer.batch]
  | drain hready => simp [hready, Consumer.batch]
  | exitConsumer hready => simp [hready, Consumer.batch]
  | emit hbatch => simp [hbatch, Consumer.batch, List.filterMap_cons, Event.queued?,
      Event.emitted?]
  | emitted hbatch => simp [hbatch, Consumer.batch]
  | destroy | joinStdout => simp [closeTarget]
  | write => simp [List.filterMap_cons, Event.queued?, Event.emitted?]
  | _ => simp

/-- What has been emitted, then what is in the hands of the consumer, then what is on the queue, is
what has been put on the queue, in that order. -/
theorem fifo_run (captured : Stream → Bool) (inputs : List (Input ι)) :
    (emitted step (startLogger captured) inputs).filterMap Event.emitted? ++
        ((exec step (startLogger captured) inputs).consumer.batch ++
          (exec step (startLogger captured) inputs).queue) =
      (emitted step (startLogger captured) inputs).filterMap Event.queued? := by
  refine (conserves_emitted (fun s : LoggerState ι => s.consumer.batch ++ s.queue)
    (startLogger captured) inputs fun t _ => ?_).symm
  rcases step_cases t.before t.input with ⟨h, -⟩ | h
  · simp [Conserves, h]
  · exact h.fifo

/-- A step that does something neither loses an entry of a caller nor lets one overtake. -/
theorem Does.caller {s : LoggerState ι} {input : Input ι}
    {out : LoggerState ι × List (Event ι)} (h : Does s input out) (caller : Caller ι) :
    (s.producers caller).inFlight ++ out.2.filterMap (Event.acceptedBy? caller) =
      out.2.filterMap (Event.queuedBy? caller) ++ (out.1.producers caller).inFlight := by
  -- Of the three steps that come to the gate all say the same: what passes it is from then on in
  -- flight, and nobody else's message changes.
  have hgate : ∀ (s : LoggerState ι) (by' : Caller ι) level message, s.producers by' = .idle →
      (s.producers caller).inFlight ++
          (s.gate by' level message).2.filterMap (Event.acceptedBy? caller) =
        (s.gate by' level message).2.filterMap (Event.queuedBy? caller) ++
          ((s.gate by' level message).1.producers caller).inFlight := by
    intro s by' level message hidle
    rcases gate_cases s by' level message with h | h
    · rw [h]
      simp [Event.acceptedBy?, Event.queuedBy?]
    · rw [h]
      by_cases hcaller : caller = by'
      · subst hcaller
        simp [Event.acceptedBy?, Event.queuedBy?, hidle, Producer.inFlight]
      · simp [Event.acceptedBy?, Event.queuedBy?, hcaller, Ne.symm hcaller]
  cases h with
  | log hidle => exact hgate s _ _ _ hidle
  | line hidle => exact hgate (s.setCapture _ _) _ _ _ hidle
  | lastLine hidle => exact hgate (s.setCapture _ _) _ _ _ hidle
  -- The message goes from what is in flight to the queue.
  | @push by' timestamp level message hpassed =>
    by_cases hcaller : caller = by'
    · subst hcaller
      simp [Event.acceptedBy?, Event.queuedBy?, hpassed, Producer.inFlight]
    · simp [Event.acceptedBy?, Event.queuedBy?, hcaller, Ne.symm hcaller]
  -- By now the message is on the queue, so nothing of the caller is in flight.
  | @notify by' timestamp hpushed =>
    by_cases hcaller : caller = by'
    · subst hcaller
      simp [hpushed, Producer.inFlight]
    · simp [hcaller]
  | write | emit => simp [List.filterMap_cons, Event.acceptedBy?, Event.queuedBy?]
  | destroy | joinStdout => simp [closeTarget]
  | _ => simp

/-- What a caller has put on the queue, then what it is about to put there, is what it has logged
that passed the gate, in that order. -/
theorem caller_run (captured : Stream → Bool) (inputs : List (Input ι)) (caller : Caller ι) :
    (emitted step (startLogger captured) inputs).filterMap (Event.queuedBy? caller) ++
        ((exec step (startLogger captured) inputs).producers caller).inFlight =
      (emitted step (startLogger captured) inputs).filterMap (Event.acceptedBy? caller) := by
  refine (conserves_emitted (fun s : LoggerState ι => (s.producers caller).inFlight)
    (startLogger captured) inputs fun t _ => ?_).symm
  rcases step_cases t.before t.input with ⟨h, -⟩ | h
  · simp [Conserves, h]
  · exact h.caller caller

/-! ## The daemon keeps to the order of the shutdown -/

/-- By the time the destructor is called, the other threads have been joined: none of them is in
`log`, and none calls it any more. The reads of the pipes do not fail. -/
def Orderly (t : Taken (LoggerState ι) (Input ι)) : Prop :=
  match t.input with
  | .log .. => t.before.destructor = .alive
  | .destroy => t.before.destructor = .alive → ∀ i, t.before.producers (.inl i) = .idle
  | .readFails _ => False
  | _ => True

/-- `running` has not been cleared. -/
def Destructor.runs : Destructor → Bool
  | .alive | .joining _ | .stopping => true
  | .notifying | .joiningConsumer | .finished => false

/-- The write end of a stream has been closed. -/
def Destructor.closed : Destructor → Stream → Bool
  | .alive, _ => false
  | .joining .stdout, stream => stream = .stdout
  | _, _ => true

/-- The reader of a stream has been joined. -/
def Destructor.hasJoined : Destructor → Stream → Bool
  | .alive, _ | .joining .stdout, _ => false
  | .joining .stderr, stream => stream = .stdout
  | _, _ => true

/-- What holds of a captured stream and its reader. -/
structure StreamCapture.Sound (capture : StreamCapture) (producer : Producer) : Prop where
  /-- A reader that is over has left nothing behind. -/
  joined : capture.joined = true →
    producer = .idle ∧ capture.unread = [] ∧ capture.targetOpen = false
  /-- One that is past the loop has at most a part of a line. -/
  draining : capture.stage = .draining →
    capture.targetOpen = false ∧ capture.pipe = [] ∧ newline ∉ capture.buffer

/-- What holds of every state. -/
structure Sound (s : LoggerState ι) : Prop where
  /-- The consumer is asleep only while there is nothing for it to do, or someone is about to wake
  it. -/
  asleep : s.consumer = .asleep →
    (s.queue = [] ∨ ∃ caller, s.producers caller = .pushed) ∧
      (s.running = true ∨ s.destructor = .notifying)
  /-- The flag says how far the destructor is. -/
  running : s.running = s.destructor.runs
  /-- The other threads are not in `log` when the destructor runs. -/
  threads : s.destructor ≠ .alive → ∀ i, s.producers (.inl i) = .idle
  /-- The consumer leaves nothing on the queue. -/
  exited : s.consumer = .exited → s.queue = [] ∧ s.running = false
  /-- The destructor has joined it. -/
  finished : s.destructor = .finished → s.consumer = .exited
  /-- The destructor has closed the write ends. -/
  closed : ∀ stream, s.destructor.closed stream = true →
    (s.captures stream).targetOpen = false
  /-- The destructor has joined the readers. -/
  hasJoined : ∀ stream, s.destructor.hasJoined stream = true → (s.captures stream).joined = true
  /-- The readers. -/
  captures : ∀ stream, (s.captures stream).Sound (s.producers (.inr stream))

omit [DecidableEq ι] in
/-- Once `running` is cleared, nobody is in `log`: the threads were done before, and the readers
have been joined. -/
theorem Sound.idle {s : LoggerState ι} (h : Sound s) (hrunning : s.running = false)
    (caller : Caller ι) : s.producers caller = .idle := by
  have hruns : s.destructor.runs = false := h.running.symm.trans hrunning
  cases caller with
  | inl i =>
    refine h.threads (fun halive => ?_) i
    rw [halive] at hruns
    cases hruns
  | inr stream =>
    refine ((h.captures stream).joined (h.hasJoined stream ?_)).1
    cases hd : s.destructor <;> rw [hd] at hruns <;> first | rfl | cases hruns

omit [DecidableEq ι] in

/-- A logger that has just started is sound, whichever streams it captures. -/
theorem sound_startLogger (captured : Stream → Bool) :
    Sound (startLogger (ι := ι) captured) where
  asleep h := by cases h
  running := rfl
  threads _ _ := rfl
  exited h := by cases h
  finished h := by cases h
  closed _ h := by cases h
  hasJoined _ h := by cases h
  captures stream := by
    constructor
    · intro hjoined
      cases h : captured stream <;>
        simp_all [startLogger, stealStream, StreamCapture.joined, StreamCapture.unread]
    · intro hdraining
      cases h : captured stream <;> simp_all [startLogger, stealStream]

/-- Soundness is kept when a caller that may still log passes the gate: a thread before the
destructor starts, or a reader that is not joined. -/
theorem Sound.enter {s : LoggerState ι} (h : Sound s) {caller : Caller ι}
    (hidle : s.producers caller = .idle)
    (hthread : ∀ i, caller = .inl i → s.destructor = .alive)
    (hreader : ∀ stream, caller = .inr stream → (s.captures stream).joined = false)
    (level : Level) (message : Bytes) :
    Sound (s.setProducer caller (.passed level message)) where
  asleep hasleep := by
    obtain ⟨hqueue, hrunning⟩ := h.asleep hasleep
    -- The caller that has yet to notify is not the one that enters, which is idle.
    refine ⟨hqueue.imp_right fun ⟨c, hc⟩ => ⟨c, ?_⟩, hrunning⟩
    rw [producers_setProducer, if_neg, hc]
    rintro rfl
    rw [hidle] at hc
    cases hc
  running := h.running
  threads hne i := by
    -- The threads are idle once the destructor runs, and so the one that enters is not one of them.
    rw [producers_setProducer, if_neg fun heq => hne (hthread i heq.symm)]
    exact h.threads hne i
  exited := h.exited
  finished := h.finished
  closed := h.closed
  hasJoined := h.hasJoined
  captures stream := by
    refine ⟨fun hjoined => ?_, (h.captures stream).draining⟩
    -- A reader that has been joined does not log any more.
    rw [producers_setProducer, if_neg]
    · exact (h.captures stream).joined hjoined
    · intro heq
      have hnot := hreader stream heq.symm
      rw [captures_setProducer] at hjoined
      rw [hjoined] at hnot
      cases hnot

/-- Soundness is kept when a caller that may still log comes to the gate, whether its message passes
or not. -/
theorem Sound.gate {s : LoggerState ι} (h : Sound s) {caller : Caller ι}
    (hidle : s.producers caller = .idle)
    (hthread : ∀ i, caller = .inl i → s.destructor = .alive)
    (hreader : ∀ stream, caller = .inr stream → (s.captures stream).joined = false)
    (level : Level) (message : Bytes) : Sound (s.gate caller level message).1 := by
  rcases gate_cases s caller level message with heq | heq
  · rw [heq]
    exact h
  · rw [heq]
    exact h.enter hidle hthread hreader level message

/-- The entry of a caller comes on the queue, and the consumer is about to be told. -/
theorem Sound.push {s : LoggerState ι} (h : Sound s) {caller : Caller ι} {level : Level}
    {message : Bytes} (hpassed : s.producers caller = .passed level message) (entry : LogEntry) :
    Sound { s.setProducer caller .pushed with queue := s.queue ++ [entry] } := by
  -- The logger is still running, as otherwise everyone would be idle.
  have hbusy : s.producers caller ≠ .idle := by
    rw [hpassed]
    exact Producer.noConfusion
  have hrunning : s.running = true := by
    by_contra hnot
    exact hbusy (h.idle (by simpa using hnot) caller)
  constructor
  case asleep =>
    intro hasleep
    -- The consumer may sleep on the longer queue, since this caller has yet to notify it.
    exact ⟨Or.inr ⟨caller, by simp⟩, (h.asleep hasleep).2⟩
  case running => exact h.running
  case threads =>
    intro hne i
    dsimp only
    rw [producers_setProducer, if_neg]
    -- The caller with the message is not idle, so it is none of the threads that are.
    · exact h.threads hne i
    · rintro rfl
      exact hbusy (h.threads hne i)
  case exited =>
    intro hexited
    have hnot := (h.exited hexited).2
    rw [hrunning] at hnot
    cases hnot
  case finished => exact h.finished
  case closed => exact h.closed
  case hasJoined => exact h.hasJoined
  case captures =>
    intro stream
    refine ⟨fun hjoined => ?_, (h.captures stream).draining⟩
    have hcapture := (h.captures stream).joined hjoined
    -- A joined reader is idle, so it is not the caller either.
    dsimp only
    rw [producers_setProducer, if_neg]
    · exact hcapture
    · rintro rfl
      exact hbusy hcapture.1

/-- A notified thread is not asleep. -/
@[simp] theorem Consumer.notify_ne_asleep (consumer : Consumer) : consumer.notify ≠ .asleep := by
  cases consumer <;> exact Consumer.noConfusion

/-- A notification does not make the thread leave its loop, nor come back to it. -/
@[simp] theorem Consumer.notify_eq_exited (consumer : Consumer) :
    consumer.notify = .exited ↔ consumer = .exited := by
  cases consumer <;> simp [Consumer.notify]

omit [DecidableEq ι] in
/-- Soundness is kept when the logging thread is notified. -/
theorem Sound.wake {s : LoggerState ι} (h : Sound s) :
    Sound { s with consumer := s.consumer.notify } where
  asleep hasleep := absurd hasleep (Consumer.notify_ne_asleep _)
  running := h.running
  threads := h.threads
  exited hexited := h.exited ((Consumer.notify_eq_exited _).mp hexited)
  finished hfinished := (Consumer.notify_eq_exited _).mpr (h.finished hfinished)
  closed := h.closed
  hasJoined := h.hasJoined
  captures := h.captures

/-- A caller that has put its entry on the queue notifies and leaves. -/
theorem Sound.notify {s : LoggerState ι} (h : Sound s) (caller : Caller ι) :
    Sound { s.setProducer caller .idle with consumer := s.consumer.notify } where
  -- Whoever was asleep has been woken, which is what the caller owed.
  asleep hasleep := absurd hasleep (Consumer.notify_ne_asleep _)
  running := h.running
  threads hne i := by
    -- The caller itself is idle now, and the others are as they were.
    dsimp only
    rw [producers_setProducer]
    split
    · rfl
    · exact h.threads hne i
  exited hexited := h.exited ((Consumer.notify_eq_exited _).mp hexited)
  finished hfinished := (Consumer.notify_eq_exited _).mpr (h.finished hfinished)
  closed := h.closed
  hasJoined := h.hasJoined
  captures stream := by
    refine ⟨fun hjoined => ?_, (h.captures stream).draining⟩
    obtain ⟨hidle, hcapture⟩ := (h.captures stream).joined hjoined
    dsimp only
    rw [producers_setProducer]
    split
    · exact ⟨rfl, hcapture⟩
    · exact ⟨hidle, hcapture⟩

omit [DecidableEq ι] in
/-- Soundness is kept when a stream's state changes, if the reader's place fits it, its write end is
not opened again and its reader is not unjoined. -/
theorem Sound.setCapture {s : LoggerState ι} (h : Sound s) {stream : Stream}
    {capture : StreamCapture} (hsound : capture.Sound (s.producers (.inr stream)))
    (htarget : capture.targetOpen = true → (s.captures stream).targetOpen = true)
    (hjoined : (s.captures stream).joined = true → capture.joined = true) :
    Sound (s.setCapture stream capture) where
  asleep := h.asleep
  running := h.running
  threads := h.threads
  exited := h.exited
  finished := h.finished
  closed st hst := by
    -- A target that has been closed stays closed: the new capture is open only if the old one was.
    rw [captures_setCapture]
    split
    case isTrue heq =>
      subst heq
      by_contra hnot
      have hopen := htarget (by simpa using hnot)
      rw [h.closed st hst] at hopen
      cases hopen
    case isFalse => exact h.closed st hst
  hasJoined st hst := by
    rw [captures_setCapture]
    split
    case isTrue heq =>
      subst heq
      exact hjoined (h.hasJoined st hst)
    case isFalse => exact h.hasJoined st hst
  captures st := by
    rw [captures_setCapture]
    split
    case isTrue heq =>
      subst heq
      exact hsound
    case isFalse => exact h.captures st

/-- A reader in its loop satisfies all that is asked of the later stages. -/
theorem StreamCapture.sound_of_reading {capture : StreamCapture} {producer : Producer}
    (h : capture.stage = .reading) : capture.Sound producer where
  joined hjoined := by simp [StreamCapture.joined, h] at hjoined
  draining hdraining := by
    rw [h] at hdraining
    cases hdraining

/-- The reader of a stream is not joined while it reads. -/
theorem StreamCapture.joined_of_reading {capture : StreamCapture} (h : capture.stage = .reading) :
    capture.joined = false := by
  simp [StreamCapture.joined, h]

/-- The reader of a stream is not joined while it drains the pipe. -/
theorem StreamCapture.joined_of_draining {capture : StreamCapture}
    (h : capture.stage = .draining) : capture.joined = false := by
  simp [StreamCapture.joined, h]

omit [DecidableEq ι] in
/-- Soundness is kept when a reader stays in its loop and leaves the write end alone. -/
theorem Sound.setReading {s : LoggerState ι} (h : Sound s) {stream : Stream}
    {capture : StreamCapture} (hstage : (s.captures stream).stage = .reading)
    (hstage' : capture.stage = .reading)
    (htarget : capture.targetOpen = (s.captures stream).targetOpen) :
    Sound (s.setCapture stream capture) := by
  refine h.setCapture (StreamCapture.sound_of_reading hstage') (fun hopen => ?_) fun hjoined => ?_
  · rw [← htarget]
    exact hopen
  · rw [StreamCapture.joined_of_reading hstage] at hjoined
    cases hjoined

omit [DecidableEq ι] in
/-- Soundness is kept when the write end of a captured stream is closed. -/
theorem Sound.closeTarget {s : LoggerState ι} (h : Sound s) (stream : Stream) :
    Sound (s.closeTarget stream) := by
  refine h.setCapture ⟨fun hjoined => ?_, fun hdraining => ?_⟩ (fun hopen => ?_) id
  · obtain ⟨hidle, hunread, -⟩ := (h.captures stream).joined hjoined
    exact ⟨hidle, hunread, rfl⟩
  · obtain ⟨-, hrest⟩ := (h.captures stream).draining hdraining
    exact ⟨rfl, hrest⟩
  · cases hopen

/-- Every move of a stream's reader keeps the logger sound. -/
theorem Sound.reader {s : LoggerState ι} (h : Sound s) {stream : Stream} {got : ℕ}
    {out : LoggerState ι × List (Event ι)} (hdoes : Does s (.captureReaderLoop stream got) out) :
    Sound out.1 := by
  cases hdoes with
  | emptyLine hidle hstage => exact h.setReading hstage hstage rfl
  | @line _ _ line rest hidle hstage =>
    have hset : Sound (s.setCapture stream { s.captures stream with buffer := rest }) :=
      h.setReading hstage hstage rfl
    -- The line leaves the buffer, and then the reader is a caller like any other.
    refine hset.gate hidle (fun i heq => by cases heq) (fun st heq => ?_) _ _
    obtain rfl := Sum.inr.inj heq
    rw [captures_setCapture, if_pos rfl]
    exact StreamCapture.joined_of_reading hstage
  | read hidle hstage => exact h.setReading hstage hstage rfl
  | endOfFile hidle hstage hnone hpipe hclosed =>
    -- The reader starts to drain when the pipe is empty and cannot be written to any more.
    refine h.setCapture ⟨fun hjoined => ?_, fun _ => ⟨hclosed, hpipe, ?_⟩⟩ id
      fun hjoined => ?_
    · simp [StreamCapture.joined] at hjoined
    · exact StreamCapture.findLine_eq_none hnone
    · rw [StreamCapture.joined_of_reading hstage] at hjoined
      cases hjoined
  | lastLine hidle hstage =>
    obtain ⟨hclosed, hpipe, -⟩ := (h.captures stream).draining hstage
    have hnot := StreamCapture.joined_of_draining hstage
    -- The text goes from the buffer to the gate, and the reader goes on draining.
    have hset : Sound (s.setCapture stream { s.captures stream with buffer := [] }) := by
      refine h.setCapture ⟨fun hjoined => ?_, fun _ => ⟨hclosed, hpipe, List.not_mem_nil⟩⟩
        id id
      exact absurd (hnot.symm.trans hjoined) Bool.false_ne_true
    refine hset.gate hidle (fun i heq => by cases heq) (fun st heq => ?_) _ _
    obtain rfl := Sum.inr.inj heq
    rw [captures_setCapture, if_pos rfl]
    exact hnot
  | exitReader hidle hstage hbuffer =>
    obtain ⟨hclosed, hpipe, -⟩ := (h.captures stream).draining hstage
    -- With the buffer empty too, nothing of the stream is left unread.
    refine h.setCapture ⟨fun _ => ⟨hidle, ?_, hclosed⟩, fun hdraining => ?_⟩ id fun _ => rfl
    · rw [StreamCapture.unread, hbuffer, hpipe, List.append_nil]
    · cases hdraining

/-- Every move of the logging thread keeps the logger sound. -/
theorem Sound.consumer {s : LoggerState ι} (h : Sound s) {out : LoggerState ι × List (Event ι)}
    (hdoes : Does s .loggerThread out) : Sound out.1 := by
  have hnotFinished : s.consumer ≠ .exited → s.destructor ≠ .finished := fun hne hfinished =>
    hne (h.finished hfinished)
  have hkeep : ∀ consumer queue, s.consumer ≠ .exited →
      (consumer = .asleep → queue = [] ∧ s.running = true) →
      (consumer = .exited → queue = [] ∧ s.running = false) →
      Sound { s with consumer := consumer, queue := queue } := by
    intro consumer queue hne hasleep hexited
    exact ⟨fun heq => ⟨Or.inl (hasleep heq).1, Or.inl (hasleep heq).2⟩, h.running, h.threads,
      hexited, fun hfinished => absurd hfinished (hnotFinished hne), h.closed, h.hasJoined,
      h.captures⟩
  cases hdoes with
  | sleep hready hqueue hrunning =>
    exact hkeep .asleep s.queue (by simp [hready]) (fun _ => ⟨hqueue, hrunning⟩) (by simp)
  | drain hready => exact hkeep (.emitting _) _ (by simp [hready]) (by simp) (by simp)
  | exitConsumer hready hqueue hrunning =>
    exact hkeep .exited s.queue (by simp [hready]) (by simp) fun _ => ⟨hqueue, hrunning⟩
  | emit hbatch => exact hkeep (.emitting _) s.queue (by simp [hbatch]) (by simp) (by simp)
  | emitted hbatch => exact hkeep .ready s.queue (by simp [hbatch]) (by simp) (by simp)

/-- Every move of the destructor keeps the logger sound, if nobody is in `log` when it starts. -/
theorem Sound.destroy {s : LoggerState ι} (h : Sound s) {out : LoggerState ι × List (Event ι)}
    (hdoes : Does s .destroy out)
    (horderly : s.destructor = .alive → ∀ i, s.producers (.inl i) = .idle) : Sound out.1 := by
  have hruns := h.running
  cases hdoes with
  | destroy halive =>
    -- The target of the first stream is closed and its reader is waited for; the logger goes on
    -- running.
    have hclosed := h.closeTarget .stdout
    rw [halive] at hruns
    refine ⟨fun hasleep => ⟨(h.asleep hasleep).1, Or.inl hruns⟩, hruns,
      fun _ => horderly halive, h.exited, (fun heq => by cases heq), fun stream heq => ?_,
      (fun stream heq => by cases heq), hclosed.captures⟩
    obtain rfl : stream = .stdout := by simpa [Destructor.closed] using heq
    simp [LoggerState.closeTarget]
  | joinStdout hjoining hjoined =>
    -- The first reader is done, and the target of the second stream is closed.
    have hclosed := h.closeTarget .stderr
    have hstdout := h.closed .stdout (by rw [hjoining]; rfl)
    rw [hjoining] at hruns
    refine ⟨fun hasleep => ⟨(h.asleep hasleep).1, Or.inl hruns⟩, hruns,
      fun _ => h.threads (by rw [hjoining]; exact Destructor.noConfusion),
      h.exited, (fun heq => by cases heq), fun stream _ => ?_, fun stream heq => ?_,
      hclosed.captures⟩
    · cases stream
      · simpa [LoggerState.closeTarget] using hstdout
      · simp [LoggerState.closeTarget]
    · obtain rfl : stream = .stdout := by simpa [Destructor.hasJoined] using heq
      simpa [LoggerState.closeTarget] using hjoined
  | joinStderr hjoining hjoined =>
    have hstdout := h.hasJoined .stdout (by rw [hjoining]; rfl)
    rw [hjoining] at hruns
    refine ⟨fun hasleep => ⟨(h.asleep hasleep).1, Or.inl hruns⟩, hruns,
      fun _ => h.threads (by rw [hjoining]; exact Destructor.noConfusion),
      h.exited, (fun heq => by cases heq), fun stream _ => h.closed stream (by rw [hjoining]; rfl),
      fun stream _ => ?_, h.captures⟩
    cases stream
    · exact hstdout
    · exact hjoined
  | stop hstopping =>
    -- From here on `running` is false, which the consumer sees when it is next awake.
    exact ⟨fun hasleep => ⟨(h.asleep hasleep).1, Or.inr rfl⟩, rfl,
      fun _ => h.threads (by rw [hstopping]; exact Destructor.noConfusion),
      fun hexited => ⟨(h.exited hexited).1, rfl⟩, (fun heq => by cases heq),
      fun stream _ => h.closed stream (by rw [hstopping]; rfl),
      fun stream _ => h.hasJoined stream (by rw [hstopping]; rfl), h.captures⟩
  | notifyAll hnotifying =>
    -- The wake-up of the destructor reaches a consumer that sleeps.
    have hwake := h.wake
    rw [hnotifying] at hruns
    exact ⟨fun hasleep => absurd hasleep (Consumer.notify_ne_asleep _), hruns,
      fun _ => h.threads (by rw [hnotifying]; exact Destructor.noConfusion),
      hwake.exited, (fun heq => by cases heq),
      fun stream _ => h.closed stream (by rw [hnotifying]; rfl),
      fun stream _ => h.hasJoined stream (by rw [hnotifying]; rfl), h.captures⟩
  | joinConsumer hjoining hexited =>
    rw [hjoining] at hruns
    -- The destructor returns only after the consumer has returned, which is not asleep then.
    refine ⟨fun hasleep => ?_, hruns,
      fun _ => h.threads (by rw [hjoining]; exact Destructor.noConfusion),
      h.exited, fun _ => hexited, fun stream _ => h.closed stream (by rw [hjoining]; rfl),
      fun stream _ => h.hasJoined stream (by rw [hjoining]; rfl), h.captures⟩
    rw [hexited] at hasleep
    cases hasleep

/-- Every step of an orderly run keeps the logger sound, one case per input. -/
theorem Sound.step {s : LoggerState ι} (h : Sound s) (input : Input ι)
    (horderly : Orderly ⟨s, input⟩) : Sound (step s input).1 := by
  rcases step_cases s input with ⟨hsame, -⟩ | hdoes
  · rw [hsame]
    exact h
  · cases input with
    | log thread level message =>
      generalize LoggerState.step s (.log thread level message) = out at hdoes
      cases hdoes with
      -- An orderly `log` comes before the destructor runs.
      | log hidle =>
        exact h.gate hidle (fun _ _ => horderly) (fun _ heq => by cases heq) level message
    | setMinLevel level =>
      exact ⟨h.asleep, h.running, h.threads, h.exited, h.finished, h.closed, h.hasJoined,
        h.captures⟩
    | write stream bytes =>
      generalize LoggerState.step s (.write stream bytes) = out at hdoes
      cases hdoes with
      | write hopen =>
        -- A stream that is written to has an open target, so its reader is neither joined nor
        -- draining.
        refine h.setCapture ⟨fun hjoined => ?_, fun hdraining => ?_⟩ id id
        · have hclosed := ((h.captures stream).joined hjoined).2.2
          rw [hopen] at hclosed
          cases hclosed
        · have hclosed := ((h.captures stream).draining hdraining).1
          rw [hopen] at hclosed
          cases hclosed
    | pushEntry caller timestamp =>
      generalize LoggerState.step s (.pushEntry caller timestamp) = out at hdoes
      cases hdoes with
      | push hpassed => exact h.push hpassed _
      | notify => exact h.notify caller
    | captureReaderLoop stream got => exact h.reader hdoes
    -- The order leaves out a read that fails.
    | readFails stream => exact absurd horderly id
    | loggerThread => exact h.consumer hdoes
    | spuriousWakeUp => exact h.wake
    | destroy => exact h.destroy hdoes horderly

end Steps

end Zwaved.Logger
