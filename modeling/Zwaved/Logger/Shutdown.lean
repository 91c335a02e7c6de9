import Mathlib.Algebra.BigOperators.Fin
import Zwaved.Logger.Delivery
import Zwaved.Reactive.Rank

/-!
# The logger delivers, and its shutdown ends

`logger_delivers` is about an orderly run, with any number of threads that log, any text on the two
streams, reads that cut it anywhere, and any order of steps. At each point what has been emitted,
followed by what is on its way, is what has passed the gate; each caller's part of it is in the order
in which it logged; and the reader of a captured stream has logged the lines of its text, whatever
the reads were. The threads of the logger cannot go on for ever without something new to log
(`LoggerState.rank`), and when they all wait, nothing is on its way: the consumer has not slept
through an entry, and the destructor, once it is called, has returned.
-/

namespace Zwaved.Logger

open Reactive LoggerState

variable {ι : Type} [DecidableEq ι]

/-! ## The text of a stream -/

/-- What the reader of a stream has logged, and the lines of what it has not, are the lines of the
text, whatever is still to be written. -/
def LinesKept (events : List (Event ι)) (s : LoggerState ι) (stream : Stream) : Prop :=
  ∀ more, (more = [] ∨ (s.captures stream).targetOpen = true) →
    events.filterMap (Event.line? stream) ++
        capturedLines ((s.captures stream).unread ++ more) =
      capturedLines (events.flatMap (Event.bytesTo stream) ++ more)

section LinesKept

variable {events : List (Event ι)} {s : LoggerState ι} {stream : Stream}

/-- The gate reports a message as a line of the stream whose reader logs it, takes no text in and
leaves the captures. -/
theorem line?_gate (s : LoggerState ι) (stream : Stream) (caller : Caller ι) (level : Level)
    (message : Bytes) :
    (s.gate caller level message).2.filterMap (Event.line? stream) =
      (if caller = .inr stream then [message] else []) ∧
    (s.gate caller level message).2.flatMap (Event.bytesTo stream) = [] ∧
    (s.gate caller level message).1.captures = s.captures := by
  have hline : ∀ accepted,
      [Event.logged caller level message accepted].filterMap (Event.line? stream) =
        (if caller = .inr stream then [message] else []) := by
    intro accepted
    cases caller with
    | inl i => rfl
    | inr reader =>
      by_cases h : reader = stream <;> simp [Event.line?, h]
  rcases gate_cases s caller level message with h | h <;> rw [h] <;> exact ⟨hline _, rfl, rfl⟩

omit [DecidableEq ι] in
/-- A step that leaves the stream and says nothing of it keeps its lines. -/
theorem LinesKept.of_same {s' : LoggerState ι} {out : List (Event ι)}
    (h : LinesKept events s stream)
    (hunread : (s'.captures stream).unread = (s.captures stream).unread)
    (htarget : (s'.captures stream).targetOpen = true → (s.captures stream).targetOpen = true)
    (hline : out.filterMap (Event.line? stream) = [])
    (hbytes : out.flatMap (Event.bytesTo stream) = []) :
    LinesKept (events ++ out) s' stream := by
  intro more hmore
  rw [List.filterMap_append, List.flatMap_append, hline, hbytes, hunread, List.append_nil,
    List.append_nil]
  exact h more (hmore.imp_right htarget)

omit [DecidableEq ι] in
/-- The lines of a stream are kept when one of them comes off what has not been read and is logged,
or is empty and passed over. -/
theorem LinesKept.of_line {s' : LoggerState ι} {out : List (Event ι)} {line rest : Bytes}
    (h : LinesKept events s stream)
    (hunread : (s.captures stream).unread = line ++ newline :: rest) (hnotMem : newline ∉ line)
    (hunread' : (s'.captures stream).unread = rest)
    (htarget : (s'.captures stream).targetOpen = (s.captures stream).targetOpen)
    (hline : out.filterMap (Event.line? stream) = if line = [] then [] else [line])
    (hbytes : out.flatMap (Event.bytesTo stream) = []) :
    LinesKept (events ++ out) s' stream := by
  intro more hmore
  have hkept := h more (by rwa [← htarget])
  rw [hunread, List.append_assoc, List.cons_append, capturedLines_append,
    capturedLines_of_notMem hnotMem] at hkept
  rw [List.filterMap_append, List.flatMap_append, hline, hbytes, hunread', List.append_nil,
    List.append_assoc]
  exact hkept

/-- Every move of a stream's reader keeps the lines of each stream: it reads bytes, logs a line or
logs the rest at the end. -/
theorem LinesKept.reader {reader : Stream} {got : ℕ} {out : LoggerState ι × List (Event ι)}
    (h : LinesKept events s stream) (hs : Sound s)
    (hdoes : Does s (.captureReaderLoop reader got) out) :
    LinesKept (events ++ out.2) out.1 stream := by
  -- What another reader does is not about this stream.
  by_cases hother : stream = reader
  case neg =>
    have hother' : reader ≠ stream := fun heq => hother heq.symm
    cases hdoes with
    | line hidle hstage hne hline =>
      obtain ⟨hlines, hbytes, hcaptures⟩ := line?_gate (s.setCapture reader _) stream
        (.inr reader) (s.captures reader).level _
      rw [if_neg fun heq => hother' (Sum.inr.inj heq)] at hlines
      refine h.of_same ?_ ?_ hlines hbytes <;> rw [hcaptures] <;> simp [hother]
    | lastLine =>
      obtain ⟨hlines, hbytes, hcaptures⟩ := line?_gate (s.setCapture reader _) stream
        (.inr reader) (s.captures reader).level _
      rw [if_neg fun heq => hother' (Sum.inr.inj heq)] at hlines
      refine h.of_same ?_ ?_ hlines hbytes <;> rw [hcaptures] <;> simp [hother]
    | _ => exact h.of_same (by simp [hother]) (by simp [hother]) rfl rfl
  case pos =>
    subst hother
    cases hdoes with
    | @emptyLine _ _ rest hidle hstage hline =>
      obtain ⟨hbuffer, hnotMem⟩ := StreamCapture.findLine_eq_some hline
      have hunread : (s.captures stream).unread =
          [] ++ newline :: (rest ++ (s.captures stream).pipe) := by
        rw [StreamCapture.unread, hbuffer]
        rfl
      refine h.of_line hunread hnotMem ?_ ?_ rfl rfl <;> simp [StreamCapture.unread]
    | line hidle hstage hne hline =>
      obtain ⟨hbuffer, hnotMem⟩ := StreamCapture.findLine_eq_some hline
      obtain ⟨hlines, hbytes, hcaptures⟩ := line?_gate (s.setCapture stream _) stream
        (.inr stream) (s.captures stream).level _
      refine h.of_line (by rw [StreamCapture.unread, hbuffer, List.append_assoc]; rfl) hnotMem
        ?_ ?_ (by rw [hlines, if_pos rfl, if_neg hne]) hbytes <;> rw [hcaptures] <;>
        simp [StreamCapture.unread]
    | read =>
      refine h.of_same ?_ ?_ rfl rfl <;> simp [StreamCapture.unread]
    | endOfFile => refine h.of_same ?_ ?_ rfl rfl <;> simp [StreamCapture.unread]
    | exitReader => refine h.of_same ?_ ?_ rfl rfl <;> simp [StreamCapture.unread]
    | lastLine hidle hstage hbuffer =>
      obtain ⟨hclosed, hpipe, hnotMem⟩ := (hs.captures stream).draining hstage
      obtain ⟨hlines, hbytes, hcaptures⟩ := line?_gate
        (s.setCapture stream { s.captures stream with buffer := [] }) stream (.inr stream)
        (s.captures stream).level (s.captures stream).buffer
      intro more hmore
      -- The stream is closed, so nothing more comes.
      have hnil : more = [] := by
        rw [hcaptures, captures_setCapture, if_pos rfl] at hmore
        refine hmore.resolve_right fun hopen => ?_
        rw [hclosed] at hopen
        cases hopen
      have hkept := h [] (Or.inl rfl)
      rw [StreamCapture.unread, hpipe, List.append_nil, List.append_nil,
        capturedLines_of_notMem hnotMem, if_neg hbuffer] at hkept
      rw [hnil, hcaptures, captures_setCapture, if_pos rfl, List.filterMap_append,
        List.flatMap_append, hlines, hbytes, if_pos rfl, List.append_nil]
      simpa [StreamCapture.unread, hpipe, capturedLines] using hkept

/-- Every step of an orderly run keeps the lines of a stream. -/
theorem LinesKept.step (h : LinesKept events s stream) (hs : Sound s) (input : Input ι)
    (horderly : Orderly ⟨s, input⟩) :
    LinesKept (events ++ (step s input).2) (step s input).1 stream := by
  rcases step_cases s input with ⟨hsame, -⟩ | hdoes
  · rw [hsame, List.append_nil]
    exact h
  · cases input with
    | log thread level message =>
      generalize LoggerState.step s (.log thread level message) = out at hdoes
      cases hdoes with
      | log =>
        -- A thread's own line is none of the stream's, even if it passes the gate.
        obtain ⟨hlines, hbytes, hcaptures⟩ := line?_gate s stream
          (.inl thread) level message
        exact h.of_same (by rw [hcaptures]) (by rw [hcaptures]; exact id)
          (hlines.trans (if_neg Sum.inl_ne_inr)) hbytes
    | setMinLevel | spuriousWakeUp => exact h.of_same rfl id rfl rfl
    | write target bytes =>
      generalize LoggerState.step s (.write target bytes) = out at hdoes
      cases hdoes with
      | write hopen =>
        -- What is written goes to the pipe of its own stream and is unread there.
        by_cases htarget : target = stream
        case pos =>
          subst htarget
          intro more _
          have hkept := h (bytes ++ more) (Or.inr hopen)
          simpa [StreamCapture.unread, List.filterMap_cons, Event.line?, Event.bytesTo]
            using hkept
        case neg =>
          refine h.of_same ?_ ?_ rfl (by simp [Event.bytesTo, htarget]) <;>
            simp [Ne.symm htarget]
    | pushEntry caller timestamp =>
      generalize LoggerState.step s (.pushEntry caller timestamp) = out at hdoes
      -- Of the two steps of a caller only the gate has to do with lines.
      cases hdoes with
      | push => exact h.of_same rfl id rfl rfl
      | notify => exact h.of_same rfl id rfl rfl
    | captureReaderLoop reader got => exact h.reader hs hdoes
    | readFails stream => exact absurd horderly id
    | loggerThread =>
      generalize LoggerState.step s .loggerThread = out at hdoes
      cases hdoes <;> exact h.of_same rfl id rfl rfl
    | destroy =>
      generalize LoggerState.step s .destroy = out at hdoes
      cases hdoes with
      -- Closing a target takes nothing from what is unread.
      | destroy | joinStdout =>
        refine h.of_same ?_ ?_ rfl rfl <;> simp only [closeTarget, captures_setCapture] <;>
          split <;> simp_all [StreamCapture.unread]
      | _ => exact h.of_same rfl id rfl rfl

omit [DecidableEq ι] in

/-- At the start nothing has been written to a stream or logged from it. -/
theorem linesKept_startLogger (captured : Stream → Bool) :
    LinesKept [] (startLogger (ι := ι) captured) stream := by
  intro more _
  rfl

end LinesKept

/-! ## The threads of the logger come to rest -/

/-- The steps that a caller in `pushEntry` still causes. -/
def Producer.rank : Producer → ℕ
  | .idle => 0
  | .passed .. => 6
  | .pushed => 2

/-- Those that the reader of a stream does. -/
def StreamCapture.rank (capture : StreamCapture) : ℕ :=
  8 * capture.buffer.length + 9 * capture.pipe.length +
    match capture.stage with
    | .reading => 2
    | .draining => 1
    | .absent | .exited => 0

/-- Those that the consumer does with what is in its hands. -/
def Consumer.rank : Consumer → ℕ
  | .exited => 0
  | .asleep => 1
  | .ready => 2
  | .emitting batch => 3 + batch.length

/-- Those that the destructor does. -/
def Destructor.rank : Destructor → ℕ
  | .finished => 0
  | .joiningConsumer => 1
  | .notifying => 3
  | .stopping => 4
  | .joining .stderr => 5
  | .joining .stdout => 6
  | .alive => 7

/-- The steps that the threads of the logger can take before they wait. -/
def LoggerState.rank [Fintype ι] (s : LoggerState ι) : ℕ :=
  s.consumer.rank + 3 * s.queue.length + (∑ caller, (s.producers caller).rank) +
    (∑ stream, (s.captures stream).rank) + s.destructor.rank

/-- What a step adds to them. -/
def brings (t : Taken (LoggerState ι) (Input ι)) : ℕ :=
  match t.input with
  | .log .. => 6
  | .write _ bytes => 9 * bytes.length
  | .spuriousWakeUp => 1
  | _ => 0

/-- A sum over a family that changes at one place changes by the difference there. -/
theorem sum_update {α β : Type} [Fintype α] [DecidableEq α] (f : β → ℕ) (g : α → β) (a : α)
    (b : β) : (∑ i, f (Function.update g a b i)) + f (g a) = (∑ i, f (g i)) + f b := by
  have herase : ∑ i ∈ Finset.univ.erase a, f (Function.update g a b i) =
      ∑ i ∈ Finset.univ.erase a, f (g i) :=
    Finset.sum_congr rfl fun i hi => by rw [Function.update_of_ne (Finset.ne_of_mem_erase hi)]
  rw [← Finset.add_sum_erase _ _ (Finset.mem_univ a),
    ← Finset.add_sum_erase _ (fun i => f (g i)) (Finset.mem_univ a), herase,
    Function.update_self]
  omega

section Rank

variable [Fintype ι] (s : LoggerState ι) {j k : ℕ}

/-- A caller that moves on by `k` steps leaves the logger `k` steps fewer. -/
theorem rank_setProducer_le {caller : Caller ι} {producer : Producer}
    (h : producer.rank + k ≤ (s.producers caller).rank + j) :
    (s.setProducer caller producer).rank + k ≤ s.rank + j := by
  have hsum := sum_update Producer.rank s.producers caller producer
  unfold LoggerState.rank LoggerState.setProducer
  dsimp only
  omega

omit [DecidableEq ι] in

/-- A reader that moves on by `k` steps leaves the logger `k` steps fewer. -/
theorem rank_setCapture_le {stream : Stream} {capture : StreamCapture}
    (h : capture.rank + k ≤ (s.captures stream).rank + j) :
    (s.setCapture stream capture).rank + k ≤ s.rank + j := by
  have hsum := sum_update StreamCapture.rank s.captures stream capture
  unfold LoggerState.rank LoggerState.setCapture
  dsimp only
  omega

omit [DecidableEq ι] in

/-- The steps of the logging thread are counted with three for each message that waits. -/
theorem rank_setConsumer_le {consumer : Consumer} {queue : List LogEntry}
    (h : consumer.rank + 3 * queue.length + k ≤ s.consumer.rank + 3 * s.queue.length + j) :
    LoggerState.rank { s with consumer := consumer, queue := queue } + k ≤ s.rank + j := by
  unfold LoggerState.rank
  dsimp only
  omega

omit [DecidableEq ι] in

/-- The destructor's moves count as steps of the logger. -/
theorem rank_setDestructor_le {destructor : Destructor}
    (h : destructor.rank + k ≤ s.destructor.rank + j) :
    LoggerState.rank { s with destructor := destructor } + k ≤ s.rank + j := by
  unfold LoggerState.rank
  dsimp only
  omega

/-- A notification leaves the logging thread one step more at most: the one that wakes it up. -/
theorem Consumer.rank_notify_le (consumer : Consumer) :
    consumer.notify.rank ≤ consumer.rank + 1 := by
  cases consumer <;> simp [Consumer.notify, Consumer.rank]

/-- A message at the gate brings at most six more steps. -/
theorem rank_gate_le {caller : Caller ι} (hidle : s.producers caller = .idle) (level : Level)
    (message : Bytes) : (s.gate caller level message).1.rank ≤ s.rank + 6 := by
  rcases gate_cases s caller level message with h | h
  · rw [h]
    exact Nat.le_add_right _ _
  · rw [h]
    exact rank_setProducer_le s (k := 0) (by rw [hidle]; rfl)

/-- Every move of a stream's reader leaves at least one step fewer. -/
theorem rank_reader_lt {stream : Stream} {got : ℕ} {out : LoggerState ι × List (Event ι)}
    (hdoes : Does s (.captureReaderLoop stream got) out) : out.1.rank + 1 ≤ s.rank := by
  cases hdoes with
  -- A line break without a line before it is taken from the buffer.
  | emptyLine hidle hstage hline =>
    obtain ⟨hbuffer, -⟩ := StreamCapture.findLine_eq_some hline
    refine rank_setCapture_le s (j := 0) ?_
    simp only [StreamCapture.rank, hstage, hbuffer, List.length_append, List.length_cons]
    omega
  | @line _ _ line rest hidle hstage hne hline =>
    obtain ⟨hbuffer, -⟩ := StreamCapture.findLine_eq_some hline
    -- The line and its break pay for the six steps of the message.
    have hset : (s.setCapture stream { s.captures stream with buffer := rest }).rank + 7 ≤
        s.rank := by
      refine rank_setCapture_le s (j := 0) ?_
      have hlength : 0 < line.length := List.length_pos_of_ne_nil hne
      simp only [StreamCapture.rank, hstage, hbuffer, List.length_append, List.length_cons]
      omega
    have hgate := rank_gate_le (s.setCapture stream { s.captures stream with buffer := rest })
      hidle (s.captures stream).level line
    omega
  -- Bytes on the pipe weigh one more than those in the buffer.
  | read hidle hstage hnone hpipe =>
    refine rank_setCapture_le s (j := 0) ?_
    have hlength : 0 < (s.captures stream).pipe.length := List.length_pos_of_ne_nil hpipe
    simp only [StreamCapture.rank, hstage, List.length_append, List.length_take,
      List.length_drop]
    omega
  | endOfFile hidle hstage =>
    refine rank_setCapture_le s (j := 0) ?_
    simp only [StreamCapture.rank, hstage]
    omega
  | lastLine hidle hstage hbuffer =>
    -- The rest of the file pays for a message too, and there is some.
    have hset : (s.setCapture stream { s.captures stream with buffer := [] }).rank + 8 ≤
        s.rank := by
      refine rank_setCapture_le s (j := 0) ?_
      have hlength : 0 < (s.captures stream).buffer.length := List.length_pos_of_ne_nil hbuffer
      simp only [StreamCapture.rank, hstage, List.length_nil]
      omega
    have hgate := rank_gate_le (s.setCapture stream { s.captures stream with buffer := [] })
      hidle (s.captures stream).level (s.captures stream).buffer
    omega
  | exitReader hidle hstage =>
    refine rank_setCapture_le s (j := 0) ?_
    simp only [StreamCapture.rank, hstage]
    omega

/-- Every move of the logging thread leaves at least one step fewer. -/
theorem rank_consumer_lt {out : LoggerState ι × List (Event ι)}
    (hdoes : Does s .loggerThread out) : out.1.rank + 1 ≤ s.rank := by
  cases hdoes with
  | sleep hready | exitConsumer hready =>
    refine rank_setConsumer_le s (j := 0) ?_
    simp only [hready, Consumer.rank]
    omega
  | drain hready hqueue =>
    refine rank_setConsumer_le s (j := 0) ?_
    have hlength : 0 < s.queue.length := List.length_pos_of_ne_nil hqueue
    simp only [hready, Consumer.rank, queueDrainBatch, List.length_take, List.length_drop]
    omega
  | emit hbatch =>
    refine rank_setConsumer_le s (j := 0) ?_
    simp only [hbatch, Consumer.rank, List.length_cons]
    omega
  | emitted hbatch =>
    refine rank_setConsumer_le s (j := 0) ?_
    simp only [hbatch, Consumer.rank, List.length_nil]
    omega

omit [DecidableEq ι] in
/-- Closing the write end of a stream leaves no more steps to be done. -/
theorem rank_closeTarget_le (stream : Stream) : (s.closeTarget stream).rank ≤ s.rank :=
  rank_setCapture_le s (k := 0) (j := 0) (Nat.le_refl _)

/-- The destructor uses up a step, when it goes on as when it is called. -/
theorem rank_destroy_lt {out : LoggerState ι × List (Event ι)} (hdoes : Does s .destroy out) :
    out.1.rank + 1 ≤ s.rank := by
  cases hdoes with
  | destroy halive =>
    have hdestructor : (s.closeTarget .stdout).destructor = .alive := halive
    refine (rank_setDestructor_le (s.closeTarget .stdout) (j := 0) ?_).trans
      (rank_closeTarget_le s .stdout)
    simp only [hdestructor, Destructor.rank]
    omega
  | joinStdout hjoining =>
    have hdestructor : (s.closeTarget .stderr).destructor = .joining .stdout := hjoining
    refine (rank_setDestructor_le (s.closeTarget .stderr) (j := 0) ?_).trans
      (rank_closeTarget_le s .stderr)
    simp only [hdestructor, Destructor.rank]
    omega
  | joinStderr hjoining =>
    refine rank_setDestructor_le s (j := 0) ?_
    simp only [hjoining, Destructor.rank]
    omega
  | stop hstopping =>
    refine rank_setDestructor_le { s with running := false } (j := 0) ?_
    simp only [hstopping, Destructor.rank]
    omega
  | notifyAll hnotifying =>
    -- The consumer may have one more step to do.
    have hconsumer : LoggerState.rank { s with consumer := s.consumer.notify } ≤ s.rank + 1 := by
      refine rank_setConsumer_le s (k := 0) ?_
      have hnotify := Consumer.rank_notify_le s.consumer
      omega
    have hdestructor : LoggerState.rank { s with
        consumer := s.consumer.notify, destructor := .joiningConsumer } + 2 ≤
        LoggerState.rank { s with consumer := s.consumer.notify } := by
      refine rank_setDestructor_le { s with consumer := s.consumer.notify } (j := 0) ?_
      simp only [hnotifying, Destructor.rank]
      omega
    dsimp only
    omega
  | joinConsumer hjoining =>
    refine rank_setDestructor_le s (j := 0) ?_
    simp only [hjoining, Destructor.rank]
    omega

/-- Every move of a caller in `pushEntry` leaves at least one step fewer. -/
theorem rank_pushEntry_lt {caller : Caller ι} {timestamp : ℕ}
    {out : LoggerState ι × List (Event ι)} (hdoes : Does s (.pushEntry caller timestamp) out) :
    out.1.rank + 1 ≤ s.rank := by
  cases hdoes with
  | @push _ _ level message hpassed =>
    -- The caller has made one of its two steps.
    have hproducer : (s.setProducer caller .pushed).rank + 4 ≤ s.rank := by
      refine rank_setProducer_le s (j := 0) ?_
      simp only [hpassed, Producer.rank]
      omega
    -- The entry on the queue is paid for by the step of its caller.
    have hqueue : LoggerState.rank { s.setProducer caller .pushed with
        queue := s.queue ++ [⟨level, timestamp, message⟩] } ≤
        (s.setProducer caller .pushed).rank + 3 := by
      refine rank_setConsumer_le (s.setProducer caller .pushed) (k := 0) ?_
      simp only [queue_setProducer, List.length_append, List.length_singleton]
      omega
    exact (Nat.add_le_add_right hqueue 1).trans hproducer
  | notify hpushed =>
    have hproducer : (s.setProducer caller .idle).rank + 2 ≤ s.rank := by
      -- The step of notifying is the last one.
      refine rank_setProducer_le s (j := 0) ?_
      simp only [hpushed, Producer.rank]
      omega
    -- Waking the consumer costs one.
    have hconsumer : LoggerState.rank { s.setProducer caller .idle with
        consumer := s.consumer.notify } ≤ (s.setProducer caller .idle).rank + 1 := by
      refine rank_setConsumer_le (s.setProducer caller .idle) (k := 0) ?_
      have hnotify := Consumer.rank_notify_le s.consumer
      simp only [consumer_setProducer, queue_setProducer]
      omega
    exact (Nat.add_le_add_right hconsumer 1).trans hproducer

/-- A thread that goes on by itself uses up a step, and what comes from outside adds what it
brings. -/
theorem rank_step_le (input : Input ι) :
    (step s input).1.rank + (goesOn ⟨s, input⟩).toNat ≤ s.rank + brings ⟨s, input⟩ := by
  rcases step_cases s input with ⟨hsame, hstays⟩ | hdoes
  -- A step that does nothing does not go on either.
  · rw [hsame, hstays]
    exact Nat.le_add_right _ _
  -- One for the step itself, and what comes from outside brings its own share.
  · have hone := Bool.toNat_le (goesOn ⟨s, input⟩)
    cases input with
    | log thread level message =>
      generalize LoggerState.step s (.log thread level message) = out at hdoes
      cases hdoes with
      | log hidle => exact rank_gate_le s hidle level message
    | setMinLevel level => exact Nat.le_refl _
    | write stream bytes =>
      generalize LoggerState.step s (.write stream bytes) = out at hdoes
      cases hdoes with
      | write hopen =>
        -- The bytes written bring what they weigh.
        refine rank_setCapture_le s (k := 0) ?_
        simp only [StreamCapture.rank, List.length_append, brings]
        omega
    | pushEntry caller timestamp =>
      have h := rank_pushEntry_lt s hdoes
      omega
    | captureReaderLoop stream got =>
      have h := rank_reader_lt s hdoes
      omega
    -- A reader whose read has failed has returned, which weighs less.
    | readFails stream =>
      generalize LoggerState.step s (.readFails stream) = out at hdoes
      cases hdoes with
      | readFails hidle hstage =>
        refine rank_setCapture_le s (k := 0) (j := 0) ?_
        simp only [StreamCapture.rank, hstage]
        omega
    | loggerThread =>
      have h := rank_consumer_lt s hdoes
      omega
    | spuriousWakeUp =>
      -- A wake-up that no one asked for brings one.
      refine rank_setConsumer_le s (k := 0) ?_
      have hnotify := Consumer.rank_notify_le s.consumer
      simp only [brings]
      omega
    | destroy =>
      have h := rank_destroy_lt s hdoes
      omega

omit [DecidableEq ι] in

/-- A logger that has just started is at most thirteen steps away from rest. -/
theorem rank_startLogger_le (captured : Stream → Bool) :
    (startLogger (ι := ι) captured).rank ≤ 13 := by
  have hcapture : ∀ stream, (stealStream captured stream).rank ≤ 2 := by
    intro stream
    cases h : captured stream <;> simp [stealStream, StreamCapture.rank, h]
  have hsum : ∑ stream, (stealStream captured stream).rank ≤ 4 := by
    have hpair : (Finset.univ : Finset Stream) = {.stdout, .stderr} := rfl
    have hout := hcapture .stdout
    have herr := hcapture .stderr
    rw [hpair, Finset.sum_pair (by decide)]
    omega
  unfold LoggerState.rank startLogger
  simp only [Consumer.rank, List.length_nil, Producer.rank, Finset.sum_const_zero,
    Destructor.rank]
  omega

end Rank

/-! ## All that is logged is emitted -/

/-- Every thread of the logger waits, or is over. -/
def Quiet (s : LoggerState ι) : Prop := ∀ input, goesOn ⟨s, input⟩ = false

omit [DecidableEq ι] in
/-- When they wait, nothing is on its way, and the destructor has not been called or has returned.
-/
theorem Sound.quiet {s : LoggerState ι} (h : Sound s) (hquiet : Quiet s) :
    (s.destructor = .alive ∨ s.destructor = .finished) ∧ s.consumer.batch = [] ∧ s.queue = [] ∧
      (∀ caller, s.producers caller = .idle) ∧ ∀ stream,
        newline ∉ (s.captures stream).unread ∧
          (s.destructor = .finished → (s.captures stream).unread = []) := by
  have hidle : ∀ caller, s.producers caller = .idle := by
    intro caller
    simpa [goesOn] using hquiet (.pushEntry caller 0)
  have hconsumer : s.consumer = .asleep ∨ s.consumer = .exited := by
    have hwaits := hquiet .loggerThread
    simp only [goesOn, decide_eq_false_iff_not, not_and_or, not_not] at hwaits
    exact hwaits
  have hreader : ∀ stream, (s.captures stream).goesOn = false := by
    intro stream
    have hwaits := hquiet (.captureReaderLoop stream 0)
    simpa [goesOn, hidle] using hwaits
  -- A reader that waits is over, or at the end of an open pipe.
  have hstage : ∀ stream, (s.captures stream).joined = true ∨
      ((s.captures stream).targetOpen = true ∧ newline ∉ (s.captures stream).unread) := by
    intro stream
    have hwaits := hreader stream
    unfold StreamCapture.goesOn at hwaits
    split at hwaits
    case h_1 hstage | h_2 hstage => exact Or.inl (by simp [StreamCapture.joined, hstage])
    case h_3 hstage =>
      simp only [decide_eq_false_iff_not, not_or, not_not, Bool.not_eq_false] at hwaits
      obtain ⟨hnone, hpipe, hopen⟩ := hwaits
      refine Or.inr ⟨hopen, ?_⟩
      rw [StreamCapture.unread, hpipe, List.append_nil]
      exact StreamCapture.findLine_eq_none hnone
    case h_4 => cases hwaits
  -- Closing the pipe lets the reader go on, so a join does not wait.
  have hjoined : ∀ stream, s.destructor.closed stream = true →
      (s.captures stream).joined = true := by
    intro stream hclosed
    refine (hstage stream).resolve_right fun hopen => ?_
    rw [h.closed stream hclosed] at hopen
    cases hopen.1
  have hdestructor := hquiet .destroy
  refine ⟨?_, ?_, ?_, hidle, fun stream => ⟨?_, fun hfinished => ?_⟩⟩
  · simp only [goesOn, destructorGoesOn] at hdestructor
    split at hdestructor
    case h_1 halive => exact Or.inl halive
    case h_2 hfinished => exact Or.inr hfinished
    case h_3 stream hjoining =>
      rw [hjoined stream (by rw [hjoining]; cases stream <;> rfl)] at hdestructor
      cases hdestructor
    case h_4 | h_5 => cases hdestructor
    case h_6 hjoining =>
      -- The consumer has been notified, and does not fall asleep again.
      have hnot : s.consumer ≠ .exited := by simpa using hdestructor
      rcases (h.asleep (hconsumer.resolve_right hnot)).2 with hrunning | hnotifying
      · rw [h.running, hjoining] at hrunning
        cases hrunning
      · rw [hjoining] at hnotifying
        cases hnotifying
  · rcases hconsumer with hconsumer | hconsumer <;> rw [hconsumer] <;> rfl
  · rcases hconsumer with hasleep | hexited
    · refine (h.asleep hasleep).1.resolve_right ?_
      rintro ⟨caller, hpushed⟩
      rw [hidle] at hpushed
      cases hpushed
    · exact (h.exited hexited).1
  · rcases hstage stream with hover | ⟨-, hnotMem⟩
    · rw [((h.captures stream).joined hover).2.1]
      exact List.not_mem_nil
    · exact hnotMem
  · exact ((h.captures stream).joined (hjoined stream (by rw [hfinished]; rfl))).2.1

omit [DecidableEq ι] in
/-- When the destructor has returned, all of them are over. -/
theorem Sound.quiet_of_finished {s : LoggerState ι} (h : Sound s)
    (hfinished : s.destructor = .finished) : Quiet s := by
  have hrunning : s.running = false := by
    rw [h.running, hfinished]
    rfl
  intro input
  cases input with
  | pushEntry caller timestamp => simp [goesOn, h.idle hrunning]
  | captureReaderLoop stream got =>
    have hjoined := h.hasJoined stream (by rw [hfinished]; rfl)
    have hover : (s.captures stream).goesOn = false := by
      unfold StreamCapture.joined at hjoined
      unfold StreamCapture.goesOn
      rcases of_decide_eq_true hjoined with hstage | hstage <;> rw [hstage]
    simp [goesOn, hover]
  | loggerThread => simp [goesOn, h.finished hfinished]
  | destroy => simp [goesOn, destructorGoesOn, hfinished]
  | log | setMinLevel | write | readFails | spuriousWakeUp => rfl

instance [Fintype ι] : DecidablePred (Orderly (ι := ι))
  | ⟨s, .log ..⟩ => inferInstanceAs (Decidable (s.destructor = .alive))
  | ⟨s, .destroy⟩ =>
    inferInstanceAs (Decidable (s.destructor = .alive → ∀ i, s.producers (.inl i) = .idle))
  | ⟨_, .readFails _⟩ => .isFalse id
  | ⟨_, .setMinLevel _⟩ | ⟨_, .write ..⟩ | ⟨_, .pushEntry ..⟩ | ⟨_, .captureReaderLoop ..⟩
  | ⟨_, .loggerThread⟩ | ⟨_, .spuriousWakeUp⟩ => .isTrue trivial

/-- The step says what comes to the gate, and that it passes it if its level is high enough: a
thread that is not in `log` already and calls it, and the text that the process writes to a stream
that is captured. -/
def Recorded (t : Taken (LoggerState ι) (Input ι)) : Prop :=
  match t.input with
  | .log thread level message => t.before.producers (.inl thread) = .idle →
      (step t.before t.input).2 =
        [.logged (.inl thread) level message (t.before.minLevel.value ≤ level.value)]
  | .write stream bytes => (t.before.captures stream).targetOpen = true →
      (step t.before t.input).2 = [.written stream bytes]
  | _ => True

/-- Every step says what comes to the gate: a call of an idle thread with whether its level passes,
and the text that is written to a captured stream. -/
theorem recorded (t : Taken (LoggerState ι) (Input ι)) : Recorded t := by
  obtain ⟨s, input⟩ := t
  cases input with
  | log thread level message =>
    intro hidle
    dsimp only [step, LoggerState.log]
    rw [if_pos hidle, gate]
    split
    · next hlow => rw [decide_eq_false (UInt8.not_le.mpr hlow)]
    · next hpasses => rw [decide_eq_true (UInt8.not_lt.mp hpasses)]
  | write stream bytes =>
    intro hopen
    dsimp only [step, LoggerState.write]
    rw [if_pos hopen]
  | setMinLevel | pushEntry | captureReaderLoop | readFails | loggerThread | spuriousWakeUp
    | destroy => trivial

/-- In every orderly run, whatever the order of the steps: what a thread logs and what is written to
a captured stream is recorded, and what is high enough passes the gate; what has passed the gate is
emitted, or on its way, in the order in which it was logged; the reader of a stream logs the lines
of its text; the threads of the logger come to rest, and then all of it has been emitted, and the
destructor has not been called or has returned. Once it has returned, they are at rest. -/
theorem logger_delivers [Fintype ι] (captured : Stream → Bool) (inputs : List (Input ι))
    (horderly : ∀ t ∈ trace step (startLogger captured) inputs, Orderly t) :
    let s := exec step (startLogger captured) inputs
    let events := emitted step (startLogger captured) inputs
    (∀ t ∈ trace step (startLogger captured) inputs, Recorded t) ∧
      (events.filterMap Event.emitted? ++ (s.consumer.batch ++ s.queue) =
        events.filterMap Event.queued?) ∧
      (∀ caller, events.filterMap (Event.queuedBy? caller) ++ (s.producers caller).inFlight =
        events.filterMap (Event.acceptedBy? caller)) ∧
      (∀ stream, events.filterMap (Event.line? stream) ++
          capturedLines (s.captures stream).unread =
        capturedLines (events.flatMap (Event.bytesTo stream))) ∧
      (trace step (startLogger captured) inputs).countP goesOn ≤
        13 + ((trace step (startLogger captured) inputs).map brings).sum ∧
      (Quiet s → (s.destructor = .alive ∨ s.destructor = .finished) ∧ s.consumer.batch = [] ∧
        s.queue = [] ∧ (∀ caller, s.producers caller = .idle) ∧ ∀ stream,
          newline ∉ (s.captures stream).unread ∧
            (s.destructor = .finished → (s.captures stream).unread = [])) ∧
      (s.destructor = .finished → Quiet s) := by
  intro s events
  -- The order is asked for at each step, and what is kept goes along with the run.
  have hsteps : ∀ pre i post, inputs = pre ++ i :: post →
      Orderly ⟨exec step (startLogger captured) pre, i⟩ := fun pre i post hsplit =>
    horderly _ ((mem_trace_iff step _ _ _).mpr ⟨pre, post, hsplit, rfl⟩)
  obtain ⟨hsound, hlines⟩ : Sound s ∧ ∀ stream, LinesKept events s stream :=
    run_induction_of step (startLogger captured) (C := fun _ t => Orderly t)
      (I := fun _ out st => Sound st ∧ ∀ stream, LinesKept out st stream)
      ⟨sound_startLogger captured, fun _ => linesKept_startLogger captured⟩
      (fun _ _ _ i hkept ho => ⟨hkept.1.step i ho, fun stream => (hkept.2 stream).step hkept.1 i ho⟩)
      inputs hsteps
  -- Each step that goes on takes from the rank, which is at the start at most thirteen and grows
  -- only by what is brought.
  have hrank := countP_add_rank_le_sum (I := fun _ => True) (C := fun _ => True)
    LoggerState.rank goesOn brings (s := startLogger captured) trivial
    (fun _ (_ : _ ∈ trace step (startLogger captured) inputs) => trivial)
    fun st i _ _ => ⟨trivial, rank_step_le st i⟩
  have hstart := rank_startLogger_le (ι := ι) captured
  refine ⟨fun t _ => recorded t, fifo_run captured inputs, caller_run captured inputs,
    fun stream => ?_, ?_, hsound.quiet, hsound.quiet_of_finished⟩
  -- With nothing more to come, what is unread has no line in it that would be missing.
  · have hkept := hlines stream [] (Or.inl rfl)
    rw [List.append_nil, List.append_nil] at hkept
    exact hkept
  · omega

/-- A thread logs, and the process writes a line and a part of one to the standard output; the
destructor is called while an entry is on the queue. -/
def sampleRun : List (Input Unit) :=
  let reads (got : ℕ) : Input Unit := .captureReaderLoop .stdout got
  [.loggerThread, .log () .info [97], .write .stdout [120, 10, 121], .pushEntry (.inl ()) 1,
    reads 2, reads 1, .pushEntry (.inr .stdout) 2, .pushEntry (.inl ()) 0, .loggerThread,
    .loggerThread, .destroy, reads 5, .pushEntry (.inr .stdout) 0, reads 5, reads 0, reads 0,
    .pushEntry (.inr .stdout) 3, .pushEntry (.inr .stdout) 0, reads 0, .destroy,
    .captureReaderLoop .stderr 0, .captureReaderLoop .stderr 0] ++
  List.replicate 3 .destroy ++ List.replicate 6 .loggerThread ++ [.destroy]

/-- Its three messages are emitted, in the order in which they came on the queue. -/
theorem logger_delivers_sample :
    let events := emitted step (startLogger fun _ => true) sampleRun
    events.filterMap Event.emitted? = events.filterMap Event.queued? ∧
      events.filterMap (Event.line? .stdout) = [[120], [121]] := by
  intro events
  obtain ⟨-, hfifo, -, hlines, -, hquiet, hover⟩ :=
    logger_delivers (fun _ => true) sampleRun (by decide)
  have hfinished : (exec step (startLogger fun _ => true) sampleRun).destructor = .finished := by
    decide
  obtain ⟨-, hbatch, hqueue, -, hunread⟩ := hquiet (hover hfinished)
  refine ⟨?_, ?_⟩
  · rw [hbatch, hqueue, List.append_nil, List.append_nil] at hfifo
    exact hfifo
  · have hkept := hlines .stdout
    have hwritten : capturedLines (events.flatMap (Event.bytesTo .stdout)) = [[120], [121]] := by
      decide
    rw [(hunread .stdout).2 hfinished] at hkept
    exact (List.append_nil _).symm.trans (hkept.trans hwritten)

end Zwaved.Logger
