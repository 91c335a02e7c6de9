import Zwaved.Protocol.Outbound
import Zwaved.Reactive.Fifo

/-!
# One payload for each S0 nonce

What `pushSendData` diverts to an S0 node waits in the queue of the node. The first payload to wait
asks the node for a nonce, every NONCE_REPORT takes the payload at the head, and what is left in the
queue then asks for the next nonce. `S0Outcome` says what an ApplicationCommand comes to, and the
rest of the module what that means for a run of the machine of `Outbound`: the queue is first in,
first out (`conserves_s0`), and while it is not empty a NONCE_GET has gone out since the last
payload left it or the first came into it (`asked_exec`). The two are put together in
`serialises_exec`.

A NONCE_GET goes out in the handler that has changed the queue. In between, while the handler runs,
the NONCE_GET is on the agenda.
-/

namespace Zwaved.Protocol

open Reactive

variable (bus : Bus)

/-- What a move publishes. -/
def publishedBy (t : Step) : List Action :=
  match Dispatcher.action? t with
  | some (action, draws) => (bus.work t.before.state action draws).2.1
  | none => []

/-- A SendDataCommand for the node: its payload and its callback id. -/
def sendDataTo (nodeId : NodeId) : Action → Option (Bytes × UInt8)
  | .command (.sendData other payload callbackId) =>
    if other = nodeId then some (payload, callbackId) else none
  | _ => none

/-- The payload that a move brings for the node: SecureSendRequest is delivered. -/
def requestedS0 (nodeId : NodeId) (t : Step) : List S2.Pending :=
  match Dispatcher.action? t with
  | some (.secureSend other payload callbackId, _) =>
    if other = nodeId then [{ payload, callbackId }] else []
  | _ => []

/-- The frames for the node that the S0 orchestrator publishes when an ApplicationCommand is
delivered to it. -/
def framesS0 (nodeId : NodeId) (t : Step) : List (Bytes × UInt8) :=
  match Dispatcher.action? t with
  | some (.applicationCommand .s0Outbound _ _, _) =>
    (publishedBy bus t).filterMap (sendDataTo nodeId)
  | _ => []

/-- What leaves the queue with these frames: as many payloads from its head. -/
def encryptedS0 (nodeId : NodeId) (t : Step) : List S2.Pending :=
  (t.before.state.queues nodeId).take (framesS0 bus nodeId t).length

/-! ## One delivery -/

/-- What an ApplicationCommand comes to at the S0 orchestrator. -/
inductive S0Outcome (w : World) (nodeId : NodeId) (ccData : Bytes) (nonce : S0.Nonce) :
    World × List Action → Prop
  /-- It is no report, or nothing waits for one. -/
  | ignored (other : S0.Security.commandByte ccData ≠ some S0.Security.nonceReport ∨
      w.queues nodeId = []) : S0Outcome w nodeId ccData nonce (w, [])
  /-- The payload at the head goes out under the nonce of the report. -/
  | encrypted {pending : S2.Pending} {queue : List S2.Pending} {nodeNonce : S0.Nonce} {key : S0.Key}
    (command : S0.Security.commandByte ccData = some S0.Security.nonceReport)
    (waiting : w.queues nodeId = pending :: queue)
    (decoded : S0.Security.decodeNonceReport ccData = some nodeNonce)
    (networkKey : w.networkKey = some key) :
    S0Outcome w nodeId ccData nonce
      ({ w with queues := Function.update w.queues nodeId queue },
        [sendData nodeId (S0.Encapsulation.encrypt bus.s0Ssl pending.payload w.controllerNodeId
            nodeId nonce nodeNonce key) pending.callbackId,
          .nextNonce nodeId])
  /-- The queue is dropped. -/
  | dropped (command : S0.Security.commandByte ccData = some S0.Security.nonceReport)
    (waiting : w.queues nodeId ≠ [])
    (unusable : S0.Security.decodeNonceReport ccData = none ∨ w.networkKey = none) :
    S0Outcome w nodeId ccData nonce
      ({ w with queues := Function.update w.queues nodeId [] }, [])

/-- A nonce report to the S0 side has one of the outcomes of `S0Outcome`. -/
theorem onS0Outbound_outcome (w : World) (nodeId : NodeId) (ccData : Bytes) (nonce : S0.Nonce) :
    S0Outcome bus w nodeId ccData nonce (bus.onS0Outbound w nodeId ccData nonce) := by
  unfold Bus.onS0Outbound
  split
  · next hcommand => exact .ignored (Or.inl hcommand)
  next hcommand =>
  rw [not_not] at hcommand
  split
  · next hempty => exact .ignored (Or.inr hempty)
  next pending queue hwaiting =>
  split
  · next hdecoded hkey => exact .encrypted hcommand hwaiting hdecoded hkey
  · next hunusable =>
    refine .dropped hcommand (by simp [hwaiting]) ?_
    cases hdecoded : S0.Security.decodeNonceReport ccData with
    | none => exact Or.inl rfl
    | some nodeNonce =>
      cases hkey : w.networkKey with
      | none => exact Or.inr rfl
      | some key => exact (hunusable nodeNonce key hdecoded hkey).elim

/-- What a delivery to the S0 orchestrator sends and leaves. -/
theorem step_deliveredS0 {t : Step} {other : NodeId} {ccData : Bytes} {draws : Draws}
    (haction : Dispatcher.action? t = some (.applicationCommand .s0Outbound other ccData, draws))
    (nodeId : NodeId) :
    framesS0 bus nodeId t =
        (bus.onS0Outbound t.before.state other ccData draws.nonce).2.filterMap (sendDataTo nodeId) ∧
      (bus.dispatcher.step t.before t.input).1.state.queues =
        (bus.onS0Outbound t.before.state other ccData draws.nonce).1.queues := by
  obtain ⟨rest, -, hstep⟩ := bus.dispatcher.step_of_action? haction
  constructor
  · simp only [framesS0, publishedBy, haction]
    rfl
  · rw [hstep]
    rfl

/-- What a move does to the queue of a node. -/
inductive S0Moved (nodeId : NodeId) (t : Step) : Prop
  /-- Nothing. -/
  | quiet (requested : requestedS0 nodeId t = []) (frames : framesS0 bus nodeId t = [])
    (queue : (bus.dispatcher.step t.before t.input).1.state.queues nodeId =
      t.before.state.queues nodeId)
  /-- A payload comes in. If it is the first, a nonce is asked for. -/
  | requested {pending : S2.Pending} (requested : requestedS0 nodeId t = [pending])
    (frames : framesS0 bus nodeId t = [])
    (queue : (bus.dispatcher.step t.before t.input).1.state.queues nodeId =
      t.before.state.queues nodeId ++ [pending])
    (asks : t.before.state.queues nodeId = [] →
      requestNonce nodeId ∈ (bus.dispatcher.step t.before t.input).1.agenda)
    (agenda : ∃ rest, t.before.agenda = .secureSend nodeId pending.payload pending.callbackId :: rest)
  /-- The payload at the head goes out, and what is left asks for a nonce. -/
  | encrypted {ccData : Bytes} {draws : Draws} {nodeNonce : S0.Nonce} {key : S0.Key}
    {pending : S2.Pending} {queue : List S2.Pending}
    (action : Dispatcher.action? t = some (.applicationCommand .s0Outbound nodeId ccData, draws))
    (decoded : S0.Security.decodeNonceReport ccData = some nodeNonce)
    (networkKey : t.before.state.networkKey = some key)
    (waiting : t.before.state.queues nodeId = pending :: queue)
    (requested : requestedS0 nodeId t = [])
    (frames : framesS0 bus nodeId t = [(S0.Encapsulation.encrypt bus.s0Ssl pending.payload
      t.before.state.controllerNodeId nodeId draws.nonce nodeNonce key, pending.callbackId)])
    (left : (bus.dispatcher.step t.before t.input).1.state.queues nodeId = queue)
    (asks : .nextNonce nodeId ∈ (bus.dispatcher.step t.before t.input).1.agenda)
  /-- The queue is dropped. -/
  | dropped {ccData : Bytes} {draws : Draws}
    (action : Dispatcher.action? t = some (.applicationCommand .s0Outbound nodeId ccData, draws))
    (command : S0.Security.commandByte ccData = some S0.Security.nonceReport)
    (unusable : S0.Security.decodeNonceReport ccData = none ∨ t.before.state.networkKey = none)
    (requested : requestedS0 nodeId t = []) (frames : framesS0 bus nodeId t = [])
    (left : (bus.dispatcher.step t.before t.input).1.state.queues nodeId = [])

/-- Every step of the dispatcher moves the S0 queue of a node in one of the ways of `S0Moved`. -/
theorem s0Moved (nodeId : NodeId) (t : Step) : S0Moved bus nodeId t := by
  cases haction : Dispatcher.action? t with
  -- Nothing is worked off, so the queues are those before.
  | none =>
    obtain ⟨-, -, hstate⟩ := bus.dispatcher.step_of_action?_none haction
    refine .quiet (by simp only [requestedS0, haction]) (by simp only [framesS0, haction]) ?_
    rcases hstate with hsame | ⟨change, hchange⟩
    · rw [hsame]
    · rw [hchange]
      cases change <;> rfl
  | some taken =>
    obtain ⟨action, draws⟩ := taken
    obtain ⟨rest, hagenda, hstep⟩ := bus.dispatcher.step_of_action? haction
    cases action with
    | secureSend other payload callbackId =>
      -- A request for another node's queue is none of this one's.
      by_cases hother : other = nodeId
      · subst hother
        have hrequested : requestedS0 other t = [{ payload, callbackId }] := by
          simp [requestedS0, haction]
        refine .requested hrequested (by simp only [framesS0, haction]) ?_ ?_ ⟨rest, hagenda⟩
        · rw [hstep]
          exact Function.update_self ..
        · intro hempty
          rw [hstep]
          refine List.mem_append_left _ ?_
          simp [Bus.dispatcher, Bus.work, Bus.onSecureSendRequest, hempty]
      · refine .quiet (by simp [requestedS0, haction, hother]) (by simp only [framesS0, haction]) ?_
        rw [hstep]
        exact Function.update_of_ne (Ne.symm hother) ..
    | applicationCommand orchestrator other ccData =>
      -- Only the outbound orchestrator of S0 takes from the queues, and does so on a nonce report.
      cases orchestrator with
      | s0Outbound =>
        have hrequested : requestedS0 nodeId t = [] := by simp only [requestedS0, haction]
        obtain ⟨hframes, hqueues⟩ := step_deliveredS0 bus haction nodeId
        have hnext : ∀ next ∈ (bus.onS0Outbound t.before.state other ccData draws.nonce).2,
            next ∈ (bus.dispatcher.step t.before t.input).1.agenda := by
          intro next hmem
          rw [hstep]
          -- What it asks for is put in front of the agenda.
          exact List.mem_append_left _ hmem
        have houtcome := onS0Outbound_outcome bus t.before.state other ccData draws.nonce
        generalize bus.onS0Outbound t.before.state other ccData draws.nonce = result
          at hframes hqueues hnext houtcome
        cases houtcome with
        | ignored _ => exact .quiet hrequested hframes (congrFun hqueues nodeId)
        -- The frame of the nonce goes out and the head of the queue is gone; for another node
        -- nothing has happened here.
        | encrypted _ hwaiting hdecoded hkey =>
          have hqueue := congrFun hqueues nodeId
          by_cases hother : other = nodeId
          · subst hother
            dsimp only at hqueue
            rw [Function.update_self] at hqueue
            refine .encrypted haction hdecoded hkey hwaiting hrequested ?_ hqueue
              (hnext _ (by simp))
            rw [hframes]
            simp [sendDataTo, sendData]
          · dsimp only at hqueue
            rw [Function.update_of_ne (Ne.symm hother)] at hqueue
            refine .quiet hrequested ?_ hqueue
            rw [hframes]
            simp [sendDataTo, sendData, hother]
        -- The report cannot be used, so the request that waited for it is dropped.
        | dropped hcommand _ hunusable =>
          have hqueue := congrFun hqueues nodeId
          by_cases hother : other = nodeId
          · subst hother
            dsimp only at hqueue
            rw [Function.update_self] at hqueue
            exact .dropped haction hcommand hunusable hrequested hframes hqueue
          · dsimp only at hqueue
            rw [Function.update_of_ne (Ne.symm hother)] at hqueue
            exact .quiet hrequested hframes hqueue
      | s2Outbound =>
        refine .quiet (by simp only [requestedS0, haction]) (by simp only [framesS0, haction]) ?_
        rw [hstep]; rfl
      | s2Inbound =>
        refine .quiet (by simp only [requestedS0, haction]) (by simp only [framesS0, haction]) ?_
        rw [hstep]; rfl
    | command | secureS2Send | nextNonce | dongleInfo =>
      refine .quiet (by simp only [requestedS0, haction]) (by simp only [framesS0, haction]) ?_
      rw [hstep]; rfl

/-- The ApplicationCommand that is delivered to the S0 orchestrator in a move. -/
def deliveredS0 (t : Step) : Option Bytes :=
  match Dispatcher.action? t with
  | some (.applicationCommand .s0Outbound _ ccData, _) => some ccData
  | _ => none

/-- A NONCE_REPORT that is delivered to the S0 orchestrator is well formed. -/
def WellFormedReport (t : Step) : Prop :=
  ∀ ccData ∈ deliveredS0 t, S0.Security.commandByte ccData = some S0.Security.nonceReport →
    S0.Security.decodeNonceReport ccData ≠ none

instance (t : Step) : Decidable (WellFormedReport t) :=
  inferInstanceAs (Decidable (∀ ccData ∈ deliveredS0 t, _))

/-- A frame goes out only in reaction to a NONCE_REPORT of the node, one for each report: the
payload that is at the head of the queue when the report is delivered, encrypted under the nonce of
the report. -/
def OnePerReport (nodeId : NodeId) (t : Step) : Prop :=
  (framesS0 bus nodeId t = [] ∧ encryptedS0 bus nodeId t = []) ∨
    ∃ ccData draws nodeNonce key pending queue,
      Dispatcher.action? t = some (.applicationCommand .s0Outbound nodeId ccData, draws) ∧
      S0.Security.decodeNonceReport ccData = some nodeNonce ∧
      t.before.state.networkKey = some key ∧
      t.before.state.queues nodeId = pending :: queue ∧
      encryptedS0 bus nodeId t = [pending] ∧
      framesS0 bus nodeId t = [(S0.Encapsulation.encrypt bus.s0Ssl pending.payload
        t.before.state.controllerNodeId nodeId draws.nonce nodeNonce key, pending.callbackId)]

/-! ## The queue over a run -/

/-- A usable NONCE_REPORT: it is well formed, and the network key is there. -/
def Usable (t : Step) : Prop := WellFormedReport t ∧ t.before.state.networkKey ≠ none

variable {bus} {nodeId : NodeId}

/-- In every usable step, what is queued for a node and what it requests are what it encrypts and
what is still queued, in order. -/
theorem conserves_s0 {t : Step} (h : Usable t) :
    Conserves bus.dispatcher.step (·.state.queues nodeId) (requestedS0 nodeId)
      (encryptedS0 bus nodeId) t := by
  unfold Conserves encryptedS0
  cases s0Moved bus nodeId t with
  | quiet hrequested hframes hqueue => simp [hrequested, hframes, hqueue]
  | requested hrequested hframes hqueue => simp [hrequested, hframes, hqueue]
  | encrypted _ _ _ hwaiting hrequested hframes hleft => simp [hrequested, hframes, hwaiting, hleft]
  | dropped haction hcommand hunusable =>
    have hdecoded := h.1 _ (by simp only [deliveredS0, haction, Option.mem_def]) hcommand
    exact absurd hunusable (not_or.mpr ⟨hdecoded, h.2⟩)

/-- Every move encrypts one payload at most for a node, and only for a nonce report of that node. -/
theorem onePerReport (t : Step) : OnePerReport bus nodeId t := by
  have hnone : framesS0 bus nodeId t = [] → OnePerReport bus nodeId t := fun hframes =>
    Or.inl ⟨hframes, by simp [encryptedS0, hframes]⟩
  cases s0Moved bus nodeId t with
  | quiet _ hframes => exact hnone hframes
  | requested _ hframes => exact hnone hframes
  | encrypted haction hdecoded hkey hwaiting _ hframes =>
    refine Or.inr ⟨_, _, _, _, _, _, haction, hdecoded, hkey, hwaiting, ?_, hframes⟩
    simp [encryptedS0, hframes, hwaiting]
  | dropped _ _ _ _ hframes => exact hnone hframes

/-- The network key is never taken away. -/
theorem networkKey_step {c : Config World Action} (h : c.state.networkKey ≠ none)
    (move : Move Draws Event Event Change) :
    (bus.dispatcher.step c move).1.state.networkKey ≠ none := by
  have hmoved := bus.dispatcher.moved c move
  generalize bus.dispatcher.step c move = result at hmoved ⊢
  cases hmoved with
  -- No work of the transport takes the key away, whatever it does.
  | @worked action rest draws head =>
    suffices hsame : (bus.work c.state action draws).1.networkKey = c.state.networkKey by
      exact hsame ▸ h
    cases action with
    | applicationCommand orchestrator sourceNodeId ccData =>
      cases orchestrator with
      | s0Outbound =>
        have houtcome := onS0Outbound_outcome bus c.state sourceNodeId ccData draws.nonce
        simp only [Bus.work, Bus.onApplicationCommand]
        generalize bus.onS0Outbound c.state sourceNodeId ccData draws.nonce = result at houtcome ⊢
        cases houtcome <;> rfl
      | s2Outbound => rfl
      | s2Inbound => rfl
    | command | secureSend | secureS2Send | nextNonce | dongleInfo => rfl
  | entered | nested | idle => exact h
  -- The only change of the key is to set one.
  | altered change =>
    cases change with
    | s0Key key => exact Option.some_ne_none key
    | registry | s2Keys => exact h

/-! ## The nonce that is asked for -/

variable (bus)

/-- The queue of the node becomes non-empty, or a frame for it goes out. -/
def Opens (nodeId : NodeId) (t : Step) : Prop :=
  (t.before.state.queues nodeId = [] ∧ requestedS0 nodeId t ≠ []) ∨ framesS0 bus nodeId t ≠ []

/-- A NONCE_GET for the node goes out. -/
def Asks (nodeId : NodeId) (t : Step) : Prop :=
  ∃ txOptions callbackId, .pushRequest (.sendData
    { nodeId, data := S0.Security.encodeNonceGet, txOptions, callbackId }) ∈
      (bus.dispatcher.step t.before t.input).2

/-- A NONCE_GET is about to go out: a handler is running that has it on the agenda. -/
def Asking (nodeId : NodeId) (c : Config World Action) : Prop :=
  requestNonce nodeId ∈ c.agenda ∨ .nextNonce nodeId ∈ c.agenda

/-- While payloads are queued for the node, a nonce has been asked for since the queue became
non-empty or a frame went out, whichever is later, or is about to be. -/
def Asked (nodeId : NodeId) (history : List Step) (c : Config World Action) : Prop :=
  c.state.queues nodeId ≠ [] → ∃ start rest, Since (Opens bus nodeId) history start rest ∧
    ((∃ t ∈ rest, Asks bus nodeId t) ∨ Asking nodeId c)

variable {bus} {history : List Step} {c : Config World Action}
  {move : Move Draws Event Event Change}

/-- What is about to be asked for stays so, until it is asked for or the queue is empty. -/
theorem Asking.step (h : Asking nodeId c)
    (hqueue : (bus.dispatcher.step c move).1.state.queues nodeId ≠ []) :
    Asks bus nodeId ⟨c, move⟩ ∨ Asking nodeId (bus.dispatcher.step c move).1 := by
  cases haction : Dispatcher.action? ⟨c, move⟩ with
  | none =>
    obtain ⟨-, hagenda, -⟩ := bus.dispatcher.step_of_action?_none haction
    exact Or.inr (h.imp (hagenda _) (hagenda _))
  | some taken =>
    obtain ⟨action, draws⟩ := taken
    obtain ⟨rest, hagenda, hstep⟩ := bus.dispatcher.step_of_action? haction
    dsimp only at hagenda hstep
    -- What is further down the agenda stays there.
    have hrest : ∀ next ∈ rest, next ∈ (bus.dispatcher.step c move).1.agenda := by
      intro next hnext
      rw [hstep]
      exact List.mem_append_right _ hnext
    rcases h with hrequest | hnext
    · rw [hagenda, List.mem_cons] at hrequest
      rcases hrequest with rfl | hrequest
      · -- The NONCE_GET is the next action, and is queued whatever the registry says.
        refine Or.inl ⟨transmitOptionDefault, S2.noCallback, ?_⟩
        have hqueued : onCommand c.state.registry
            (.sendData nodeId S0.Security.encodeNonceGet S2.noCallback) = .pushRequest (.sendData
              { nodeId, data := S0.Security.encodeNonceGet, txOptions := transmitOptionDefault,
                callbackId := S2.noCallback }) :=
          @pushSendData_queues c.state.registry nodeId S2.noCallback S0.Security.encodeNonceGet
            (Or.inl (reenters_requestNonce nodeId))
        rw [hstep]
        simp only [Bus.dispatcher, Bus.work, requestNonce, sendData, hqueued, Effect.outputs,
          List.mem_singleton]
      · exact Or.inr (Or.inl (hrest _ hrequest))
    · rw [hagenda, List.mem_cons] at hnext
      rcases hnext with rfl | hnext
      · rw [hstep] at hqueue ⊢
        have hqueue : c.state.queues nodeId ≠ [] := hqueue
        refine Or.inr (Or.inl (List.mem_append_left _ ?_))
        simp [Bus.dispatcher, Bus.work, hqueue]
      · exact Or.inr (Or.inr (hrest _ hnext))

/-- A move that does not open the queue, and leaves it empty if it was, keeps every waiting queue
asked for. -/
theorem Asked.keep (h : Asked bus nodeId history c) (hopens : ¬ Opens bus nodeId ⟨c, move⟩)
    (hqueue : (bus.dispatcher.step c move).1.state.queues nodeId ≠ [] →
      c.state.queues nodeId ≠ []) :
    Asked bus nodeId (history ++ [⟨c, move⟩]) (bus.dispatcher.step c move).1 := by
  intro hleft
  obtain ⟨start, rest, hsince, hasked⟩ := h (hqueue hleft)
  refine ⟨start, rest ++ [⟨c, move⟩], hsince.concat hopens, ?_⟩
  rcases hasked with ⟨t, ht, hasks⟩ | hasking
  · exact Or.inl ⟨t, List.mem_append_left _ ht, hasks⟩
  · rcases hasking.step hleft with hasks | hasking
    · exact Or.inl ⟨_, List.mem_append_right _ List.mem_cons_self, hasks⟩
    · exact Or.inr hasking

/-- After every move a queue that is waiting has been asked for since it was opened. -/
theorem Asked.step (h : Asked bus nodeId history c) (move : Move Draws Event Event Change) :
    Asked bus nodeId (history ++ [⟨c, move⟩]) (bus.dispatcher.step c move).1 := by
  cases s0Moved bus nodeId ⟨c, move⟩ with
  -- Neither a request nor a frame of this node: who asked before still does.
  | quiet hrequested hframes hqueue =>
    refine h.keep ?_ fun hleft => hqueue ▸ hleft
    rintro (⟨-, hrequest⟩ | hframe)
    · exact hrequest hrequested
    · exact hframe hframes
  | requested hrequested hframes hqueue hasks =>
    -- The first request of an empty queue asks for a nonce itself, and a later one waits for what
    -- has been asked.
    by_cases hempty : c.state.queues nodeId = []
    · -- The queue becomes non-empty, with the request on the agenda.
      intro _
      refine ⟨_, _, Since.fresh history ?_, Or.inr (Or.inl (hasks hempty))⟩
      exact Or.inl ⟨hempty, by simp [hrequested]⟩
    · refine h.keep ?_ fun _ => hempty
      rintro (⟨hnil, -⟩ | hframe)
      · exact hempty hnil
      · exact hframe hframes
  -- The frame has been sent, and the orchestrator asks for the next nonce right away.
  | encrypted _ _ _ _ _ hframes _ hasks =>
    intro _
    refine ⟨_, _, Since.fresh history ?_, Or.inr (Or.inr hasks)⟩
    exact Or.inr (by simp [hframes])
  | dropped _ _ _ _ _ hleft => exact fun hne => absurd hleft hne

/-- At every moment of a run a queue that is waiting has been asked for since it was opened. -/
theorem asked_exec (start : Config World Action) (hstart : start.state.queues nodeId = [])
    (moves : List (Move Draws Event Event Change)) :
    Asked bus nodeId (trace bus.dispatcher.step start moves)
      (exec bus.dispatcher.step start moves) :=
  trace_induction bus.dispatcher.step start (fun hne => absurd hstart hne)
    (fun _ _ move h => h.step move) moves

/-! ## S0 sends are serialised -/

variable (bus)

/-- S0 sends to the node are serialised, one for each nonce, after this history. -/
structure Serialises (nodeId : NodeId) (history : List Step) (c : Config World Action) : Prop where
  /-- The payloads that were encrypted and those that wait are the requested ones, in order. -/
  inOrder : history.flatMap (encryptedS0 bus nodeId) ++ c.state.queues nodeId =
    history.flatMap (requestedS0 nodeId)
  /-- The frames are these payloads, each under the nonce of a report of its own. -/
  onePerReport : ∀ t ∈ history, OnePerReport bus nodeId t
  /-- While payloads wait, a nonce was asked for or is about to be. -/
  asked : Asked bus nodeId history c
  /-- Once the handlers are done, it was asked for. -/
  settled : c.agenda = [] → c.state.queues nodeId ≠ [] →
    ∃ start rest, Since (Opens bus nodeId) history start rest ∧ ∃ t ∈ rest, Asks bus nodeId t

/-- From empty queues and with the network key, whatever happens, S0 sends to every node are
serialised, as long as the NONCE_REPORTs are well formed. -/
theorem serialises_exec (start : Config World Action)
    (hqueues : ∀ nodeId, start.state.queues nodeId = [])
    (hkey : start.state.networkKey ≠ none) (moves : List (Move Draws Event Event Change))
    (hreports : ∀ t ∈ trace bus.dispatcher.step start moves, WellFormedReport t) (nodeId : NodeId) :
    Serialises bus nodeId (trace bus.dispatcher.step start moves)
      (exec bus.dispatcher.step start moves) := by
  -- The key is there from the start on and stays.
  have hkeys : ∀ seen, (exec bus.dispatcher.step start seen).state.networkKey ≠ none := by
    intro seen
    induction seen using List.reverseRecOn with
    | nil => exact hkey
    | append_singleton seen move ih =>
      rw [exec_concat]
      exact networkKey_step ih move
  -- The reports are well formed, so each of them can be used.
  have husable : ∀ t ∈ trace bus.dispatcher.step start moves, Usable t := by
    intro t ht
    obtain ⟨seen, rest, -, hbefore⟩ := (mem_trace_iff ..).mp ht
    exact ⟨hreports t ht, hbefore ▸ hkeys seen⟩
  have hrun := conserves_run start moves fun t ht => @conserves_s0 bus nodeId t (husable t ht)
  have hasked := @asked_exec bus nodeId start (hqueues nodeId) moves
  -- What was requested has been encrypted or is still on the queue.
  refine ⟨?_, fun t _ => onePerReport t, hasked, fun hagenda hne => ?_⟩
  · rw [← hrun, hqueues nodeId, List.nil_append]
  -- The agenda is empty, so what was asked for is not on it: it has been asked.
  · obtain ⟨start', rest, hsince, hasks | hasking⟩ := hasked hne
    · exact ⟨start', rest, hsince, hasks⟩
    · simp [Asking, hagenda] at hasking

/-- Node 5 is sent two commands, and tells a nonce for each. -/
def twoCommands : List (Move Draws Event Event Change) :=
  happens (.command (.node 5 8 (.setDoorLock 0xFF))) ++
    happens (.command (.node 5 9 (.setDoorLock 0x00))) ++
    happens (.applicationCommand 5 (S0.Security.encodeNonceReport (Vector.replicate 8 7))) ++
    happens (.applicationCommand 5 (S0.Security.encodeNonceReport (Vector.replicate 8 3)))

/-- The lock is included with S0, and the key is there. -/
def s0Lock : Config World Action where
  state :=
    { transport := { registry := { nodes := Function.update (fun _ => none) 5 (some .s0) } }
      networkKey := some (Vector.replicate 16 5) }
  agenda := []

/-- Both payloads go out, in order. -/
theorem serialises_twoCommands :
    ((trace Bus.sample.dispatcher.step s0Lock twoCommands).flatMap
        (encryptedS0 Bus.sample 5)).map S2.Pending.payload = [[0x62, 0x01, 0xFF], [0x62, 0x01, 0x00]] ∧
      Serialises Bus.sample 5 (trace Bus.sample.dispatcher.step s0Lock twoCommands)
        (exec Bus.sample.dispatcher.step s0Lock twoCommands) :=
  ⟨by decide +kernel, serialises_exec Bus.sample s0Lock (fun _ => rfl) (by decide) twoCommands
    (by decide +kernel) 5⟩

end Zwaved.Protocol
