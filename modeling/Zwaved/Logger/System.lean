import Mathlib.Data.Fintype.Sum
import Mathlib.Data.List.TakeWhile
import Mathlib.Logic.Function.Basic
import Zwaved.Bytes
import Zwaved.Reactive.Run

/-!
# The logger

`Logger.cpp`: any thread may call `log`, which puts an entry on a queue; one thread, `loggerThread`,
takes the entries from the queue and emits them. With the syslog sink the standard streams are
pipes, and each has a thread, `captureReaderLoop`, that splits what the process writes into lines
and logs them. The destructor ends the three threads.

The threads interleave. A step is what one of them does between two points where another can come
in: what is done under the mutex is one step, and `cv.wait` gives the mutex up and falls asleep in
one. A condition variable may also wake a thread for no reason. The environment chooses how much a
`read` returns. A `read` that is interrupted is repeated, which is no step, and a `write` to a pipe
that is full waits until it is not.
-/

namespace Zwaved.Logger

/-- `Logger::Level`. -/
inductive Level
  | debug
  | info
  | warn
  | error
  deriving DecidableEq

/-- The value of the enumerator. -/
def Level.value : Level → UInt8
  | .debug => 0
  | .info => 1
  | .warn => 2
  | .error => 3

/-- `LogEntry`. The timestamp is the time that the clock says. -/
structure LogEntry where
  /-- `level`. -/
  level : Level
  /-- `timestamp`. -/
  timestamp : ℕ
  /-- `message`. -/
  message : Bytes
  deriving DecidableEq

/-- The streams that are captured. -/
inductive Stream
  | stdout
  | stderr
  deriving DecidableEq

instance : Fintype Stream where
  elems := {.stdout, .stderr}
  complete stream := by cases stream <;> simp

/-- Who calls `log`: a thread of the daemon, or the reader of a stream. -/
abbrev Caller (ι : Type) : Type := ι ⊕ Stream

/-- Where a caller is in `pushEntry`. -/
inductive Producer
  /-- It is not in it. -/
  | idle
  /-- It is past the gate. -/
  | passed (level : Level) (message : Bytes)
  /-- It has put the entry on the queue, and has yet to notify. -/
  | pushed
  deriving DecidableEq

/-- Where `captureReaderLoop` is. -/
inductive ReaderStage
  /-- The stream is not captured. -/
  | absent
  /-- It is in the loop. -/
  | reading
  /-- It is past the loop. -/
  | draining
  /-- The thread is over. -/
  | exited
  deriving DecidableEq

/-- `StreamCapture`, with the bytes in the pipe. -/
structure StreamCapture where
  /-- `thread`. -/
  stage : ReaderStage
  /-- `targetFd` has not been closed. -/
  targetOpen : Bool
  /-- What has been written and not read. -/
  pipe : Bytes
  /-- `level`. -/
  level : Level
  /-- `buffer`. -/
  buffer : Bytes
  deriving DecidableEq

/-- Where `loggerThread` is. -/
inductive Consumer
  /-- It is about to take the mutex. -/
  | ready
  /-- It is asleep in `cv.wait`. -/
  | asleep
  /-- It emits a batch. -/
  | emitting (batch : List LogEntry)
  /-- The thread is over. -/
  | exited
  deriving DecidableEq

/-- Where `~LoggerState` is. -/
inductive Destructor
  /-- It has not been called. -/
  | alive
  /-- It joins the reader of a stream. -/
  | joining (stream : Stream)
  /-- It is about to set `running`. -/
  | stopping
  /-- It is about to notify. -/
  | notifying
  /-- It joins `thread`. -/
  | joiningConsumer
  /-- It is over. -/
  | finished
  deriving DecidableEq

/-- `LoggerState`, with the threads. -/
structure LoggerState (ι : Type) where
  /-- `thread`. -/
  consumer : Consumer := .ready
  /-- `running`. -/
  running : Bool := true
  /-- `minLevel`. -/
  minLevel : Level := .info
  /-- `queue`. -/
  queue : List LogEntry := []
  /-- `stdoutCapture` and `stderrCapture`. -/
  captures : Stream → StreamCapture
  /-- The callers of `log`. -/
  producers : Caller ι → Producer := fun _ => .idle
  /-- The destructor. -/
  destructor : Destructor := .alive

/-- What happens next. -/
inductive Input (ι : Type)
  /-- A thread calls `log`. -/
  | log (thread : ι) (level : Level) (message : Bytes)
  /-- `setMinLevel`. -/
  | setMinLevel (level : Level)
  /-- The process writes to a stream. -/
  | write (stream : Stream) (bytes : Bytes)
  /-- A caller of `log` goes on, at a time. -/
  | pushEntry (caller : Caller ι) (timestamp : ℕ)
  /-- The reader of a stream goes on; a `read` returns so many bytes, if there are as many. -/
  | captureReaderLoop (stream : Stream) (got : ℕ)
  /-- A `read` fails, and not because it was interrupted. -/
  | readFails (stream : Stream)
  /-- The consumer goes on. -/
  | loggerThread
  /-- The consumer wakes up for no reason. -/
  | spuriousWakeUp
  /-- The destructor is called, or goes on. -/
  | destroy

/-- What is seen of it. -/
inductive Event (ι : Type)
  /-- The bytes are in the pipe. -/
  | written (stream : Stream) (bytes : Bytes)
  /-- A message comes to the gate. -/
  | logged (caller : Caller ι) (level : Level) (message : Bytes) (accepted : Bool)
  /-- An entry is on the queue. -/
  | queued (caller : Caller ι) (entry : LogEntry)
  /-- `emit`. -/
  | emitted (entry : LogEntry)

/-- `QUEUE_DRAIN_BATCH`. -/
def queueDrainBatch : ℕ := 64

/-- `CAPTURE_CHUNK_BYTES`. -/
def captureChunkBytes : ℕ := 256

/-- `'\n'`. -/
def newline : UInt8 := 10

/-- `stealStream`: the stream is captured, or stays as it is. The sink decides, and a `pipe` or
`dup2` that fails. -/
def stealStream (captured : Stream → Bool) (stream : Stream) : StreamCapture where
  stage := if captured stream then .reading else .absent
  targetOpen := captured stream
  pipe := []
  level := match stream with
    | .stdout => .info
    | .stderr => .error
  buffer := []

/-- The first line of the buffer and what comes after it. -/
def StreamCapture.findLine (capture : StreamCapture) : Option (Bytes × Bytes) :=
  match capture.buffer.dropWhile (· ≠ newline) with
  | [] => none
  | _ :: rest => some (capture.buffer.takeWhile (· ≠ newline), rest)

/-- The thread is not joinable, or the join returns. -/
def StreamCapture.joined (capture : StreamCapture) : Bool :=
  capture.stage = .absent ∨ capture.stage = .exited

/-- The consumer is notified. -/
def Consumer.notify : Consumer → Consumer
  | .asleep => .ready
  | consumer => consumer

namespace LoggerState

variable {ι : Type} [DecidableEq ι]

/-- `startLogger`. -/
def startLogger (captured : Stream → Bool) : LoggerState ι where
  captures := stealStream captured

variable (s : LoggerState ι)

/-- A caller gets on. -/
def setProducer (caller : Caller ι) (producer : Producer) : LoggerState ι :=
  { s with producers := Function.update s.producers caller producer }

/-- The capture of a stream changes. -/
def setCapture (stream : Stream) (capture : StreamCapture) : LoggerState ι :=
  { s with captures := Function.update s.captures stream capture }

/-- The gate of `pushEntry`. -/
def gate (caller : Caller ι) (level : Level) (message : Bytes) :
    LoggerState ι × List (Event ι) :=
  if level.value < s.minLevel.value then (s, [.logged caller level message false])
  else (s.setProducer caller (.passed level message), [.logged caller level message true])

/-- `log`, by a thread that is not in it already. -/
def log (thread : ι) (level : Level) (message : Bytes) : LoggerState ι × List (Event ι) :=
  if s.producers (.inl thread) = .idle then s.gate (.inl thread) level message else (s, [])

/-- `pushEntry` after the gate: the entry is put on the queue, then the consumer is notified. -/
def pushEntry (caller : Caller ι) (timestamp : ℕ) : LoggerState ι × List (Event ι) :=
  match s.producers caller with
  | .idle => (s, [])
  | .passed level message =>
    let entry : LogEntry := { level, timestamp, message }
    ({ s.setProducer caller .pushed with queue := s.queue ++ [entry] }, [.queued caller entry])
  | .pushed => ({ s.setProducer caller .idle with consumer := s.consumer.notify }, [])

/-- A write to a stream. Nothing reaches the pipe of one that is not captured or has been closed. -/
def write (stream : Stream) (bytes : Bytes) : LoggerState ι × List (Event ι) :=
  let capture := s.captures stream
  if capture.targetOpen then
    (s.setCapture stream { capture with pipe := capture.pipe ++ bytes }, [.written stream bytes])
  else (s, [])

/-- The loop of `captureReaderLoop`: a line of the buffer, or a `read`. -/
def readLine (stream : Stream) (got : ℕ) : LoggerState ι × List (Event ι) :=
  let capture := s.captures stream
  match capture.findLine with
  | some (line, buffer) =>
    let s := s.setCapture stream { capture with buffer }
    if line = [] then (s, []) else s.gate (.inr stream) capture.level line
  | none =>
    if capture.pipe ≠ [] then
      let got := min (max got 1) captureChunkBytes
      (s.setCapture stream
        { capture with
          buffer := capture.buffer ++ capture.pipe.take got
          pipe := capture.pipe.drop got }, [])
    else if capture.targetOpen then (s, [])
    else (s.setCapture stream { capture with stage := .draining }, [])

/-- The end of `captureReaderLoop`: what is left of the last line. -/
def drainReader (stream : Stream) : LoggerState ι × List (Event ι) :=
  let capture := s.captures stream
  if capture.buffer = [] then (s.setCapture stream { capture with stage := .exited }, [])
  else (s.setCapture stream { capture with buffer := [] }).gate (.inr stream) capture.level
    capture.buffer

/-- `captureReaderLoop`, while it is not in `log`. -/
def captureReaderLoop (stream : Stream) (got : ℕ) : LoggerState ι × List (Event ι) :=
  if s.producers (.inr stream) = .idle then
    match (s.captures stream).stage with
    | .absent | .exited => (s, [])
    | .reading => s.readLine stream got
    | .draining => s.drainReader stream
  else (s, [])

/-- A `read` of `captureReaderLoop` fails, which ends the loop. -/
def readFails (stream : Stream) : LoggerState ι × List (Event ι) :=
  let capture := s.captures stream
  if s.producers (.inr stream) = .idle ∧ capture.stage = .reading ∧ capture.findLine = none then
    (s.setCapture stream { capture with stage := .draining }, [])
  else (s, [])

/-- `loggerThread`. -/
def loggerThread : LoggerState ι × List (Event ι) :=
  match s.consumer with
  | .ready =>
    if s.queue = [] ∧ s.running then ({ s with consumer := .asleep }, [])
    else
      let batch := s.queue.take queueDrainBatch
      let s := { s with queue := s.queue.drop queueDrainBatch }
      if batch = [] ∧ ¬ s.running then ({ s with consumer := .exited }, [])
      else ({ s with consumer := .emitting batch }, [])
  | .asleep | .exited => (s, [])
  | .emitting [] => ({ s with consumer := .ready }, [])
  | .emitting (entry :: batch) => ({ s with consumer := .emitting batch }, [.emitted entry])

/-- The first half of `joinCapture`. -/
def closeTarget (stream : Stream) : LoggerState ι :=
  s.setCapture stream { s.captures stream with targetOpen := false }

/-- `~LoggerState`. -/
def destroy : LoggerState ι :=
  match s.destructor with
  | .alive => { s.closeTarget .stdout with destructor := .joining .stdout }
  | .joining .stdout =>
    if (s.captures .stdout).joined then
      { s.closeTarget .stderr with destructor := .joining .stderr }
    else s
  | .joining .stderr =>
    if (s.captures .stderr).joined then { s with destructor := .stopping } else s
  | .stopping => { s with running := false, destructor := .notifying }
  | .notifying => { s with consumer := s.consumer.notify, destructor := .joiningConsumer }
  | .joiningConsumer =>
    if s.consumer = .exited then { s with destructor := .finished } else s
  | .finished => s

/-- One step. -/
def step (s : LoggerState ι) : Input ι → LoggerState ι × List (Event ι)
  | .log thread level message => s.log thread level message
  | .setMinLevel level => ({ s with minLevel := level }, [])
  | .write stream bytes => s.write stream bytes
  | .pushEntry caller timestamp => s.pushEntry caller timestamp
  | .captureReaderLoop stream got => s.captureReaderLoop stream got
  | .readFails stream => s.readFails stream
  | .loggerThread => s.loggerThread
  | .spuriousWakeUp => ({ s with consumer := s.consumer.notify }, [])
  | .destroy => (s.destroy, [])

end LoggerState

/-! ## Lines -/

/-- The lines of a text that are not empty. -/
def capturedLines (text : Bytes) : List Bytes := (text.splitOn newline).filter (· ≠ [])

/-- The lines of a text that is cut at a newline are those before it and those behind it. -/
theorem capturedLines_append (text rest : Bytes) :
    capturedLines (text ++ newline :: rest) = capturedLines text ++ capturedLines rest := by
  rw [capturedLines, List.splitOn_append_cons_self, List.filter_append]
  rfl

/-- A text without a newline is one line, or none if it is empty. -/
theorem capturedLines_of_notMem {text : Bytes} (h : newline ∉ text) :
    capturedLines text = if text = [] then [] else [text] := by
  rw [capturedLines, List.splitOn_eq_singleton h]
  by_cases htext : text = [] <;> simp [htext]

/-- A line that is found is the buffer up to its first newline, and the rest is what comes behind
it. -/
theorem StreamCapture.findLine_eq_some {capture : StreamCapture} {line rest : Bytes}
    (h : capture.findLine = some (line, rest)) :
    capture.buffer = line ++ newline :: rest ∧ newline ∉ line := by
  unfold findLine at h
  have hsplit := List.takeWhile_append_dropWhile (p := (· ≠ newline)) (l := capture.buffer)
  cases hdrop : capture.buffer.dropWhile (· ≠ newline) with
  | nil =>
    rw [hdrop] at h
    cases h
  | cons x tail =>
    rw [hdrop] at h hsplit
    obtain ⟨rfl, rfl⟩ := Prod.mk.inj (Option.some.inj h)
    have hx : x = newline := by
      have hhead := List.head_dropWhile_not (· ≠ newline) (l := capture.buffer)
        (by rw [hdrop]; exact List.cons_ne_nil x tail)
      simp only [hdrop, List.head_cons] at hhead
      simpa using hhead
    subst hx
    refine ⟨hsplit.symm, fun hmem => ?_⟩
    simpa using List.mem_takeWhile_imp hmem

/-- If no line is found, there is no newline in the buffer. -/
theorem StreamCapture.findLine_eq_none {capture : StreamCapture} (h : capture.findLine = none) :
    newline ∉ capture.buffer := by
  unfold findLine at h
  have hsplit := List.takeWhile_append_dropWhile (p := (· ≠ newline)) (l := capture.buffer)
  cases hdrop : capture.buffer.dropWhile (· ≠ newline) with
  | nil =>
    rw [hdrop, List.append_nil] at hsplit
    intro hmem
    rw [← hsplit] at hmem
    simpa using List.mem_takeWhile_imp hmem
  | cons x tail =>
    rw [hdrop] at h
    cases h

end Zwaved.Logger
