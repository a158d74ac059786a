import HakoPduRpc.Action.MuxServer
import HakoPduRpc.Action.ServicesClient
import HakoPduRpc.Lib.Handover
import HakoPduRpc.Pdu.Layout

/-!
# Polling through the C interface

`c_action.cpp` wraps the Action client, the Action server and the multiplexed
Action server in handles.  Its six polling functions have one body: an event
that the services report is held in `pending_event` until it has been copied to
the caller.  A caller with too small a buffer, or for whom no memory can be
allocated, gets no event and an error, and finds the same event at its next call.

The body is written once here, for any services; the three handles are its
instances.
-/

namespace HakoPduRpc
namespace Action

namespace CInterface

/-- `hako_pdu_action_error_t`, as far as polling returns it. -/
inductive ActionError
  | ok
  | invalidArgument
  | notRunning
  | bufferTooSmall
  | internal
deriving DecidableEq, Repr

/-- `HAKO_PDU_ACTION_NAME_MAX`. -/
def nameMax : ℕ := 128

/-- `copy_name`: the bytes before the terminating zero. -/
def copyName (name : String) : List UInt8 :=
  name.toUTF8.toList.take (nameMax - 1)

/-- How the caller takes a packet: in a buffer of its own (`none` when that is
null), in one that is allocated for it, or not at all, because a pointer for what
has to be written is null. -/
inductive Delivery
  | buffer (capacity : Option ℕ)
  | allocate (ok : Bool)
  | invalid

/-- The arguments of a `poll`: whether `out_info`, `buffer` and `out_size` are
pointers other than null, and the capacity of the buffer. -/
structure PollArgs where
  outInfo : Bool
  buffer : Bool
  capacity : ℕ
  outSize : Bool

/-- The arguments of a `poll_alloc`, and whether `malloc` finds memory. -/
structure PollAllocArgs where
  outInfo : Bool
  outBuffer : Bool
  outSize : Bool
  memory : Bool

def PollArgs.delivery (args : PollArgs) : Delivery :=
  if args.outInfo && args.outSize then
    .buffer (if args.buffer then some args.capacity else none)
  else .invalid

def PollAllocArgs.delivery (args : PollAllocArgs) : Delivery :=
  if args.outInfo && args.outBuffer && args.outSize then .allocate args.memory
  else .invalid

/-- `copy_pdu`. -/
def copyPdu (source : PduData) (capacity : Option ℕ) : ActionError :=
  match capacity with
  | none => if source.isEmpty then .ok else .bufferTooSmall
  | some capacity =>
      if source.length > capacity then .bufferTooSmall else .ok

/-- `allocate_pdu`. -/
def allocatePdu (source : PduData) (ok : Bool) : ActionError :=
  if source.isEmpty then .ok else if ok then .ok else .internal

/-- What comes of giving a packet to the caller. -/
def Delivery.deliver (source : PduData) : Delivery → ActionError
  | .buffer capacity => copyPdu source capacity
  | .allocate ok => allocatePdu source ok
  | .invalid => .invalidArgument

/-- What is written to `out_size`: the caller with too small a buffer learns the
size that it needs. -/
def Delivery.outSize (source : PduData) : Delivery → ℕ
  | .buffer _ => source.length
  | .allocate ok => if ok then source.length else 0
  | .invalid => 0

/-- What a polling function gives its caller; the event is `none` for `NONE`.
`error` is written to `out_error`, which may be null. -/
structure Polled (τ ι : Type) where
  event : Option τ := none
  info : Option ι := none
  pdu : Option PduData := none
  outSize : ℕ := 0
  error : ActionError := .ok

/-- What the polling functions use of the services: their `poll`, the other
calls that reach them, how they are started and stopped, and how an event is
written out. -/
structure Services (σ π κ ε τ ι : Type) where
  poll : σ → π → σ × Option (String × ε)
  call : σ → κ → σ
  start : σ → Bool → σ × Bool
  stop : σ → σ
  type : ε → τ
  isError : ε → Bool
  pdu : ε → PduData
  fillInfo : String → ε → ι

/-- `hako_pdu_action_client_handle`, `hako_pdu_action_server_handle` and
`hako_pdu_action_mux_server_handle`. -/
structure Handle (σ ε : Type) where
  services : σ
  pendingEvent : Option (String × ε) := none
  started : Bool := false

/-- A call of the C interface, or of the transport. -/
inductive Input (π κ : Type)
  | start (ok : Bool)
  | stop
  | poll (env : π) (args : PollArgs)
  | pollAlloc (env : π) (args : PollAllocArgs)
  | call (call : κ)

namespace Services

variable {σ π κ ε τ ι : Type} (S : Services σ π κ ε τ ι)

/-- What the caller gets of an event. -/
def returned (reported : String × ε) : Polled τ ι where
  event := some (S.type reported.2)
  info := some (S.fillInfo reported.1 reported.2)
  pdu := some (S.pdu reported.2)
  outSize := (S.pdu reported.2).length
  error := if S.isError reported.2 then .internal else .ok

/-- The end of a polling function, where the event is in `pending_event`. -/
def offer (h : Handle σ ε) (reported : String × ε) (delivery : Delivery) :
    Handle σ ε × Polled τ ι :=
  let result := delivery.deliver (S.pdu reported.2)
  if result ≠ .ok then
    ({ h with pendingEvent := some reported },
      { info := some (S.fillInfo reported.1 reported.2)
        outSize := delivery.outSize (S.pdu reported.2)
        error := result })
  else ({ h with pendingEvent := none }, S.returned reported)

/-- The body of the six polling functions; the effects are the events that the
services report meanwhile. -/
def pollHandle (h : Handle σ ε) (env : π) (delivery : Delivery) :
    Outcome (Handle σ ε) (String × ε) (Polled τ ι) :=
  match delivery with
  | .invalid => { state := h, result := { error := .invalidArgument } }
  | delivery =>
      if ¬h.started then { state := h, result := { error := .notRunning } }
      else
        match h.pendingEvent with
        | some reported =>
            let offered := S.offer h reported delivery
            { state := offered.1, result := offered.2 }
        | none =>
            match S.poll h.services env with
            | (services, none) =>
                { state := { h with services := services }, result := {} }
            | (services, some reported) =>
                let offered :=
                  S.offer { h with services := services } reported delivery
                { state := offered.1
                  result := offered.2
                  effects := [reported] }

/-- `start`; `ok` is the outcome of the endpoints. -/
def startHandle (h : Handle σ ε) (ok : Bool) : Handle σ ε :=
  if h.started then h
  else
    let started := S.start h.services ok
    { h with services := started.1, started := started.2 }

/-- `stop_client`, `stop_server` and `stop_mux_server`. -/
def stopHandle (h : Handle σ ε) : Handle σ ε :=
  { services := S.stop h.services, pendingEvent := none, started := false }

/-- What a polling function returns, as a step of the hand-over. -/
def observe (polled : Polled τ ι) :
    List (Handover.Obs (String × ε) (Polled τ ι)) :=
  match polled.event, polled.error with
  | some _, _ => [.taken polled]
  | none, .ok => [.nothing]
  | none, .bufferTooSmall | none, .internal => [.refused]
  | none, .invalidArgument | none, .notRunning => []

/-- A call of a polling function, with what it shows. -/
def pollStep (h : Handle σ ε) (env : π) (delivery : Delivery) :
    Handle σ ε × List (Handover.Obs (String × ε) (Polled τ ι)) :=
  let o := S.pollHandle h env delivery
  (o.state, o.effects.map .produced ++ observe o.result)

/-- The handle under the calls of the application and of the transport. -/
def machine :
    Machine (Handle σ ε) (Input π κ)
      (Handover.Obs (String × ε) (Polled τ ι)) where
  step h
    | .start ok => (S.startHandle h ok, [])
    | .stop => (S.stopHandle h, [])
    | .poll env args => S.pollStep h env args.delivery
    | .pollAlloc env args => S.pollStep h env args.delivery
    | .call call => ({ h with services := S.call h.services call }, [])

end Services

/-! ## The three handles -/

/-- `hako_pdu_action_client_event_info_t`. -/
structure ClientEventInfo where
  actionName : List UInt8
  goal : ClientGoalHandle
  decision : Decision
  terminalStatus : TerminalStatus
  feedbackSequence : UInt32
  pduSize : ℕ
deriving DecidableEq

/-- `hako_pdu_action_server_event_info_t`. -/
structure ServerEventInfo where
  actionName : List UInt8
  goal : ServerGoalHandle
  runtimeCancelCause : RuntimeCancelCause
  pduSize : ℕ
deriving DecidableEq

/-- `fill_client_info`. -/
def fillClientInfo (actionName : String) (event : ClientEvent) :
    ClientEventInfo where
  actionName := copyName actionName
  goal := event.goal
  decision := event.decision
  terminalStatus := event.terminalStatus
  feedbackSequence := event.feedbackSequence
  pduSize := event.pdu.length

/-- `fill_server_info`. -/
def fillServerInfo (actionName : String) (event : ServerEvent) :
    ServerEventInfo where
  actionName := copyName actionName
  goal := event.goal
  runtimeCancelCause := event.runtimeCancelCause
  pduSize := event.pdu.length

/-- What reaches the services of a client besides `poll`. -/
inductive ClientCall
  | receive (key : PduResolvedKey) (data : PduData)
  | sendGoal (net : SendOracle) (now : UInt64) (actionName : String)
      (goalPdu : PduData) (goalId : GoalId) (timeoutUsec : UInt64)
  | cancelGoal (net : SendOracle) (actionName : String)
      (goal : ClientGoalHandle)

/-- What reaches the services of a server besides `poll`. -/
inductive ServerRequest
  | receive (key : PduResolvedKey) (data : PduData)
  | call (net : SendOracle) (actionName : String) (call : ServerCall)

/-- What reaches the multiplexed server besides `poll`. -/
inductive MuxRequest
  | transport (event : TransportEvent)
  | call (net : SendOracle) (actionName : String) (call : MuxCall)

variable (R : PduRegistry)

/-- The services behind `hako_pdu_action_client_poll` and
`hako_pdu_action_client_poll_alloc`. -/
def clientServices :
    Services ActionServicesClient (String → UInt64) ClientCall ClientEvent
      ClientEventType ClientEventInfo where
  poll s clock := ((s.poll R clock).state, (s.poll R clock).result)
  call s
    | .receive key data => s.receive key data
    | .sendGoal net now actionName goalPdu goalId timeoutUsec =>
        (s.sendGoalWithResult R net now actionName goalPdu goalId
          timeoutUsec).state
    | .cancelGoal net actionName goal => (s.sendCancel R net actionName goal).state
  start s ok := (s, ok)
  stop s := s.stopAllServices.clearAllInstances
  type event := event.type
  isError event := event.type = .error
  pdu event := event.pdu
  fillInfo := fillClientInfo

/-- The services behind `hako_pdu_action_server_poll` and
`hako_pdu_action_server_poll_alloc`. -/
def serverServices :
    Services ActionServicesServer SendOracle ServerRequest ServerEvent
      ServerEventType ServerEventInfo where
  poll s net := ((s.poll R net).state, (s.poll R net).result)
  call s
    | .receive key data => s.receive key data
    | .call net actionName call => (s.call R net actionName call).state
  start s ok := (s, ok)
  stop s := s.stopAllServices.clearAllInstances
  type event := event.type
  isError event := event.type = .error
  pdu event := event.pdu
  fillInfo := fillServerInfo

/-- The services behind `hako_pdu_action_mux_server_poll` and
`hako_pdu_action_mux_server_poll_alloc`. -/
def muxServices :
    Services ActionServicesMuxServer PollEnv MuxRequest ServerEvent
      ServerEventType ServerEventInfo where
  poll s env := ((s.poll R env).state, (s.poll R env).result)
  call s
    | .transport event => s.transport event
    | .call net actionName call => (s.call R net actionName call).state
  start s ok := ((s.startMux ok).state, (s.startMux ok).result)
  stop s := s.stop
  type event := event.type
  isError event := event.type = .error
  pdu event := event.pdu
  fillInfo := fillServerInfo

/-! ## The six polling functions -/

/-- What a polling function does with a handle, besides what it returns: the
events that the services report to it. -/
abbrev ClientPolled :=
  Outcome (Handle ActionServicesClient ClientEvent) (String × ClientEvent)
    (Polled ClientEventType ClientEventInfo)

abbrev ServerPolled (σ : Type) :=
  Outcome (Handle σ ServerEvent) (String × ServerEvent)
    (Polled ServerEventType ServerEventInfo)

/-- `hako_pdu_action_client_poll`. -/
def clientPoll (h : Handle ActionServicesClient ClientEvent)
    (clock : String → UInt64) (args : PollArgs) : ClientPolled :=
  (clientServices R).pollHandle h clock args.delivery

/-- `hako_pdu_action_client_poll_alloc`. -/
def clientPollAlloc (h : Handle ActionServicesClient ClientEvent)
    (clock : String → UInt64) (args : PollAllocArgs) : ClientPolled :=
  (clientServices R).pollHandle h clock args.delivery

/-- `hako_pdu_action_server_poll`. -/
def serverPoll (h : Handle ActionServicesServer ServerEvent)
    (net : SendOracle) (args : PollArgs) : ServerPolled ActionServicesServer :=
  (serverServices R).pollHandle h net args.delivery

/-- `hako_pdu_action_server_poll_alloc`. -/
def serverPollAlloc (h : Handle ActionServicesServer ServerEvent)
    (net : SendOracle) (args : PollAllocArgs) :
    ServerPolled ActionServicesServer :=
  (serverServices R).pollHandle h net args.delivery

/-- `hako_pdu_action_mux_server_poll`. -/
def muxServerPoll (h : Handle ActionServicesMuxServer ServerEvent)
    (env : PollEnv) (args : PollArgs) : ServerPolled ActionServicesMuxServer :=
  (muxServices R).pollHandle h env args.delivery

/-- `hako_pdu_action_mux_server_poll_alloc`. -/
def muxServerPollAlloc (h : Handle ActionServicesMuxServer ServerEvent)
    (env : PollEnv) (args : PollAllocArgs) :
    ServerPolled ActionServicesMuxServer :=
  (muxServices R).pollHandle h env args.delivery

/-! ## What polling has to do -/

/-- No pointer for what a `poll` writes is null. -/
def PollArgs.Valid (args : PollArgs) : Prop :=
  args.outInfo = true ∧ args.outSize = true

/-- No pointer for what a `poll_alloc` writes is null. -/
def PollAllocArgs.Valid (args : PollAllocArgs) : Prop :=
  args.outInfo = true ∧ args.outBuffer = true ∧ args.outSize = true

/-- The caller's buffer holds the packet; an empty one needs no buffer. -/
def PollArgs.HasRoom (args : PollArgs) (source : PduData) : Prop :=
  source = [] ∨ args.buffer = true ∧ source.length ≤ args.capacity

/-- There is memory for the packet; an empty one needs none. -/
def PollAllocArgs.HasRoom (args : PollAllocArgs) (source : PduData) : Prop :=
  source = [] ∨ args.memory = true

/-- The caller of a client handle is given this event: its type, its info with
the Action's name cut to 127 bytes, and the bytes of its packet. -/
structure GivesClient (reported : String × ClientEvent)
    (polled : Polled ClientEventType ClientEventInfo) : Prop where
  event : polled.event = some reported.2.type
  info : polled.info = some
    { actionName := reported.1.toUTF8.toList.take 127
      goal := reported.2.goal
      decision := reported.2.decision
      terminalStatus := reported.2.terminalStatus
      feedbackSequence := reported.2.feedbackSequence
      pduSize := reported.2.pdu.length }
  pdu : polled.pdu = some reported.2.pdu
  outSize : polled.outSize = reported.2.pdu.length
  error : polled.error = if reported.2.type = .error then .internal else .ok

/-- The caller of a server handle is given this event. -/
structure GivesServer (reported : String × ServerEvent)
    (polled : Polled ServerEventType ServerEventInfo) : Prop where
  event : polled.event = some reported.2.type
  info : polled.info = some
    { actionName := reported.1.toUTF8.toList.take 127
      goal := reported.2.goal
      runtimeCancelCause := reported.2.runtimeCancelCause
      pduSize := reported.2.pdu.length }
  pdu : polled.pdu = some reported.2.pdu
  outSize : polled.outSize = reported.2.pdu.length
  error : polled.error = if reported.2.type = .error then .internal else .ok

/-! ## Hand-over -/

namespace Services

variable {R} {σ π κ ε τ ι : Type} {S : Services σ π κ ε τ ι} {h : Handle σ ε}

/-- The event that a call has to give: the one in `pending_event`, else the one
that the services report now. -/
def due (S : Services σ π κ ε τ ι) (h : Handle σ ε) (env : π) :
    Option (String × ε) :=
  h.pendingEvent.or (S.poll h.services env).2

/-- The events that the services report during a call. -/
def asked (S : Services σ π κ ε τ ι) (h : Handle σ ε) (env : π) :
    List (String × ε) :=
  match h.pendingEvent with
  | some _ => []
  | none => (S.poll h.services env).2.toList

/-- The services after a call. -/
def servicesAfter (S : Services σ π κ ε τ ι) (h : Handle σ ε) (env : π) : σ :=
  match h.pendingEvent with
  | some _ => h.services
  | none => (S.poll h.services env).1

/-- What a call with valid arguments does in a started handle. -/
structure PollSpec (S : Services σ π κ ε τ ι) (h : Handle σ ε) (env : π)
    (delivery : Delivery) : Prop where
  asked_eq : (S.pollHandle h env delivery).effects = S.asked h env
  none_due : S.due h env = none →
    (S.pollHandle h env delivery).result = {} ∧
      (S.pollHandle h env delivery).state.pendingEvent = none
  given : ∀ reported, S.due h env = some reported →
    delivery.deliver (S.pdu reported.2) = .ok →
      (S.pollHandle h env delivery).result = S.returned reported ∧
        (S.pollHandle h env delivery).state.pendingEvent = none
  held : ∀ reported, S.due h env = some reported →
    delivery.deliver (S.pdu reported.2) ≠ .ok →
      (S.pollHandle h env delivery).result.event = none ∧
        (S.pollHandle h env delivery).result.error =
          delivery.deliver (S.pdu reported.2) ∧
        (S.pollHandle h env delivery).state.pendingEvent = some reported

/-- A call either finds nothing or offers the event that is due. -/
theorem pollHandle_due (hstarted : h.started = true) {delivery : Delivery}
    (hvalid : delivery ≠ .invalid) (env : π) :
    S.pollHandle h env delivery =
      let after := { h with services := S.servicesAfter h env }
      match S.due h env with
      | none => { state := after, result := {} }
      | some reported =>
          { state := (S.offer after reported delivery).1
            result := (S.offer after reported delivery).2
            effects := S.asked h env } := by
  have hcall : S.pollHandle h env delivery =
      match h.pendingEvent with
      | some reported =>
          { state := (S.offer h reported delivery).1
            result := (S.offer h reported delivery).2 }
      | none =>
          match S.poll h.services env with
          | (services, none) =>
              { state := { h with services := services }, result := {} }
          | (services, some reported) =>
              { state :=
                  (S.offer { h with services := services } reported delivery).1
                result :=
                  (S.offer { h with services := services } reported delivery).2
                effects := [reported] } := by
    cases delivery with
    | buffer capacity => simp [pollHandle, hstarted]
    | allocate ok => simp [pollHandle, hstarted]
    | invalid => exact absurd rfl hvalid
  rw [hcall, due, asked, servicesAfter]
  clear hcall hstarted
  obtain ⟨services, _ | reported, started⟩ := h
  · dsimp only
    rcases S.poll services env with ⟨services', _ | reported⟩ <;> rfl
  · rfl

theorem asked_of_none (h : Handle σ ε) (env : π) (hdue : S.due h env = none) :
    S.asked h env = [] ∧ h.pendingEvent = none := by
  unfold due at hdue
  unfold asked
  cases hpending : h.pendingEvent with
  | some reported =>
      rw [hpending] at hdue
      cases hdue
  | none =>
      rw [hpending, Option.none_or] at hdue
      rw [hdue]
      exact ⟨rfl, rfl⟩

/-- The event that is due waited, or was reported during the call. -/
theorem asked_of_some {reported : String × ε} {env : π}
    (hdue : S.due h env = some reported) :
    (h.pendingEvent = some reported ∧ S.asked h env = []) ∨
      h.pendingEvent = none ∧ S.asked h env = [reported] := by
  unfold due at hdue
  unfold asked
  cases hpending : h.pendingEvent with
  | some waiting =>
      rw [hpending, Option.some_or] at hdue
      exact Or.inl ⟨hdue, rfl⟩
  | none =>
      rw [hpending, Option.none_or] at hdue
      rw [hdue]
      exact Or.inr ⟨rfl, rfl⟩

theorem offer_given {reported : String × ε} {delivery : Delivery}
    (hgiven : delivery.deliver (S.pdu reported.2) = .ok) :
    S.offer h reported delivery =
      ({ h with pendingEvent := none }, S.returned reported) := by
  rw [offer, if_neg (not_not_intro hgiven)]

theorem offer_held {reported : String × ε} {delivery : Delivery}
    (hheld : delivery.deliver (S.pdu reported.2) ≠ .ok) :
    S.offer h reported delivery =
      ({ h with pendingEvent := some reported },
        { info := some (S.fillInfo reported.1 reported.2)
          outSize := delivery.outSize (S.pdu reported.2)
          error := delivery.deliver (S.pdu reported.2) }) := by
  rw [offer, if_pos hheld]

theorem pollSpec (hstarted : h.started = true) {delivery : Delivery}
    (hvalid : delivery ≠ .invalid) (env : π) : S.PollSpec h env delivery := by
  have hpoll := pollHandle_due (S := S) hstarted hvalid env
  constructor
  · rw [hpoll]
    cases hdue : S.due h env with
    | none => exact (asked_of_none h env hdue).1.symm
    | some reported => rfl
  · intro hdue
    rw [hpoll, hdue]
    exact ⟨rfl, (asked_of_none h env hdue).2⟩
  · intro reported hdue hgiven
    rw [hpoll, hdue]
    dsimp only
    rw [offer_given hgiven]
    exact ⟨rfl, rfl⟩
  · intro reported hdue hheld
    rw [hpoll, hdue]
    dsimp only
    rw [offer_held hheld]
    exact ⟨rfl, rfl, rfl⟩

theorem delivery_poll {args : PollArgs} (hvalid : args.Valid) :
    args.delivery = .buffer (if args.buffer then some args.capacity else none) := by
  simp [PollArgs.delivery, hvalid.1, hvalid.2]

theorem delivery_pollAlloc {args : PollAllocArgs} (hvalid : args.Valid) :
    args.delivery = .allocate args.memory := by
  simp [PollAllocArgs.delivery, hvalid.1, hvalid.2.1, hvalid.2.2]

/-- A `poll` gives a packet if and only if there is room for it. -/
theorem deliver_poll_iff {args : PollArgs} (hvalid : args.Valid)
    (source : PduData) :
    args.delivery.deliver source = .ok ↔ args.HasRoom source := by
  rw [delivery_poll hvalid]
  unfold PollArgs.HasRoom Delivery.deliver copyPdu
  cases args.buffer with
  | false => simp
  | true =>
      cases source with
      | nil => simp
      | cons byte source => simp

theorem deliver_pollAlloc_iff {args : PollAllocArgs} (hvalid : args.Valid)
    (source : PduData) :
    args.delivery.deliver source = .ok ↔ args.HasRoom source := by
  rw [delivery_pollAlloc hvalid]
  unfold PollAllocArgs.HasRoom Delivery.deliver allocatePdu
  cases args.memory with
  | false => simp
  | true => simp

theorem copyPdu_of_ne_ok {source : PduData} {capacity : Option ℕ}
    (h : copyPdu source capacity ≠ .ok) :
    copyPdu source capacity = .bufferTooSmall := by
  cases capacity <;> simp_all [copyPdu]

theorem allocatePdu_of_ne_ok {source : PduData} {ok : Bool}
    (h : allocatePdu source ok ≠ .ok) : allocatePdu source ok = .internal := by
  simp_all [allocatePdu]

/-- A caller who cannot take a packet is told so. -/
theorem deliver_refused {delivery : Delivery} {source : PduData}
    (hvalid : delivery ≠ .invalid) (hheld : delivery.deliver source ≠ .ok) :
    delivery.deliver source = .bufferTooSmall ∨
      delivery.deliver source = .internal := by
  cases delivery with
  | buffer capacity => exact Or.inl (copyPdu_of_ne_ok hheld)
  | allocate ok => exact Or.inr (allocatePdu_of_ne_ok hheld)
  | invalid => exact absurd rfl hvalid

theorem observe_refused {polled : Polled τ ι} (hevent : polled.event = none)
    (herror : polled.error = .bufferTooSmall ∨ polled.error = .internal) :
    observe (ε := ε) polled = [.refused] := by
  unfold observe
  rcases herror with herror | herror <;> rw [hevent, herror]

theorem follows_poll (env : π) (delivery : Delivery) :
    Handover.Follows S.returned h.pendingEvent
      (S.pollStep h env delivery).2
      (S.pollStep h env delivery).1.pendingEvent := by
  change Handover.Follows S.returned h.pendingEvent
    ((S.pollHandle h env delivery).effects.map .produced ++
      observe (S.pollHandle h env delivery).result)
    (S.pollHandle h env delivery).state.pendingEvent
  by_cases hvalid : delivery = .invalid
  · rw [hvalid]
    exact .nil _
  · cases hstarted : h.started with
    | false =>
        have hcall : S.pollHandle h env delivery =
            { state := h, result := { error := .notRunning } } := by
          cases delivery <;> simp_all [pollHandle]
        rw [hcall]
        exact .nil _
    | true =>
        have hspec := pollSpec (S := S) hstarted hvalid env
        rw [hspec.asked_eq]
        cases hdue : S.due h env with
        | none =>
            obtain ⟨hasked, hpending⟩ := asked_of_none h env hdue
            obtain ⟨hresult, hafter⟩ := hspec.none_due hdue
            rw [hasked, hpending, hresult, hafter]
            exact .nothing (.nil _)
        | some reported =>
            have hoffered : Handover.Follows S.returned (some reported)
                (observe (S.pollHandle h env delivery).result)
                (S.pollHandle h env delivery).state.pendingEvent := by
              by_cases hgiven : delivery.deliver (S.pdu reported.2) = .ok
              · obtain ⟨hresult, hafter⟩ := hspec.given reported hdue hgiven
                rw [hresult, hafter]
                exact .taken (.nil _)
              · obtain ⟨hevent, herror, hafter⟩ :=
                  hspec.held reported hdue hgiven
                rw [hafter, observe_refused hevent
                  (herror ▸ deliver_refused hvalid hgiven)]
                exact .refused (.nil _)
            rcases asked_of_some hdue with
              ⟨hpending, hasked⟩ | ⟨hpending, hasked⟩
            · rw [hpending, hasked]
              exact hoffered
            · rw [hpending, hasked]
              exact .produced hoffered

/-- Every step but `stop` hands over faithfully. -/
theorem follows_step {i : Input π κ} (hi : i ≠ .stop) :
    Handover.Follows S.returned h.pendingEvent (S.machine.step h i).2
      (S.machine.step h i).1.pendingEvent := by
  cases i with
  | start ok =>
      have hpending : (S.startHandle h ok).pendingEvent = h.pendingEvent := by
        unfold startHandle
        split_ifs <;> rfl
      exact hpending ▸ .nil _
  | stop => exact absurd rfl hi
  | poll env args => exact follows_poll env args.delivery
  | pollAlloc env args => exact follows_poll env args.delivery
  | call call => exact .nil _

/-- A handle that is not started holds no event. -/
def Settled (h : Handle σ ε) : Prop :=
  h.started = false → h.pendingEvent = none

theorem started_pollHandle (env : π) (delivery : Delivery) :
    (S.pollHandle h env delivery).state.started = h.started := by
  by_cases hvalid : delivery = .invalid
  · rw [hvalid]
    rfl
  · cases hstarted : h.started with
    | false =>
        cases delivery <;> simp_all [pollHandle]
    | true =>
        rw [pollHandle_due hstarted hvalid]
        dsimp only
        cases S.due h env with
        | none => exact hstarted
        | some reported =>
            unfold offer
            dsimp only
            split_ifs <;> exact hstarted

theorem Settled.pollHandle (hsettled : Settled h) (env : π)
    (delivery : Delivery) :
    Settled (S.pollHandle h env delivery).state := by
  intro hstarted
  rw [started_pollHandle] at hstarted
  have hcall : (S.pollHandle h env delivery).state = h := by
    cases delivery <;> simp [Services.pollHandle, hstarted]
  rw [hcall]
  exact hsettled hstarted

theorem Settled.step (hsettled : Settled h) (i : Input π κ) :
    Settled (S.machine.step h i).1 := by
  cases i with
  | start ok =>
      intro hstarted
      change (S.startHandle h ok).pendingEvent = none
      have hbefore : h.started = false := by
        by_contra hbefore
        rw [Bool.not_eq_false] at hbefore
        change (S.startHandle h ok).started = false at hstarted
        rw [startHandle, if_pos hbefore, hbefore] at hstarted
        cases hstarted
      rw [startHandle, hbefore]
      exact hsettled hbefore
  | stop => exact fun _ => rfl
  | poll env args => exact hsettled.pollHandle env args.delivery
  | pollAlloc env args => exact hsettled.pollHandle env args.delivery
  | call call => exact hsettled

/-- A call gives its caller the event that is `due` if there is `room` for it;
else it returns `NONE` with the error, and the event is still due. -/
structure Offers (S : Services σ π κ ε τ ι)
    (Gives : String × ε → Polled τ ι → Prop) (due : Option (String × ε))
    (room : PduData → Prop) (error : ActionError)
    (polled : Outcome (Handle σ ε) (String × ε) (Polled τ ι)) : Prop where
  nothing : due = none → polled.result.event = none ∧
    polled.result.error = .ok ∧ polled.state.pendingEvent = none
  given : ∀ reported, due = some reported → room (S.pdu reported.2) →
    Gives reported polled.result ∧ polled.state.pendingEvent = none
  held : ∀ reported, due = some reported → ¬room (S.pdu reported.2) →
    polled.result.event = none ∧ polled.result.error = error ∧
      polled.state.pendingEvent = some reported

theorem PollSpec.offers {Gives : String × ε → Polled τ ι → Prop}
    (hgives : ∀ reported, Gives reported (S.returned reported)) {env : π}
    {delivery : Delivery} (hspec : S.PollSpec h env delivery)
    {room : PduData → Prop}
    (hroom : ∀ source, delivery.deliver source = .ok ↔ room source)
    {error : ActionError}
    (herror : ∀ source, delivery.deliver source ≠ .ok →
      delivery.deliver source = error) :
    S.Offers Gives (S.due h env) room error (S.pollHandle h env delivery) := by
  constructor
  · intro hdue
    obtain ⟨hresult, hafter⟩ := hspec.none_due hdue
    rw [hresult]
    exact ⟨rfl, rfl, hafter⟩
  · intro reported hdue hfits
    obtain ⟨hresult, hafter⟩ :=
      hspec.given reported hdue ((hroom _).mpr hfits)
    rw [hresult]
    exact ⟨hgives reported, hafter⟩
  · intro reported hdue hfits
    have hheld : delivery.deliver (S.pdu reported.2) ≠ .ok :=
      fun hok => hfits ((hroom _).mp hok)
    obtain ⟨hevent, hresult, hafter⟩ := hspec.held reported hdue hheld
    exact ⟨hevent, hresult.trans (herror _ hheld), hafter⟩

/-- What holds of the calls `is` of a started handle, and of each call of its two
polling functions after them. -/
structure LosesNothing (S : Services σ π κ ε τ ι)
    (poll : Handle σ ε → π → PollArgs →
      Outcome (Handle σ ε) (String × ε) (Polled τ ι))
    (pollAlloc : Handle σ ε → π → PollAllocArgs →
      Outcome (Handle σ ε) (String × ε) (Polled τ ι))
    (Gives : String × ε → Polled τ ι → Prop) (h : Handle σ ε)
    (is : List (Input π κ)) : Prop where
  /-- The events that were given are those that the services reported, but for
  one that may be held. -/
  accounted : ∃ given,
    Handover.produced (S.machine.trace h is) =
        given ++ (S.machine.run h is).pendingEvent.toList ∧
      List.Forall₂ Gives given (Handover.taken (S.machine.trace h is))
  poll : ∀ env args, (S.machine.run h is).started = true → args.Valid →
    S.Offers Gives (S.due (S.machine.run h is) env) args.HasRoom
      .bufferTooSmall (poll (S.machine.run h is) env args)
  pollAlloc : ∀ env args, (S.machine.run h is).started = true → args.Valid →
    S.Offers Gives (S.due (S.machine.run h is) env) args.HasRoom
      .internal (pollAlloc (S.machine.run h is) env args)

/-- From a `start` to the next `stop`, whatever happened before. -/
def Reliable (S : Services σ π κ ε τ ι)
    (poll : Handle σ ε → π → PollArgs →
      Outcome (Handle σ ε) (String × ε) (Polled τ ι))
    (pollAlloc : Handle σ ε → π → PollAllocArgs →
      Outcome (Handle σ ε) (String × ε) (Polled τ ι))
    (Gives : String × ε → Polled τ ι → Prop) : Prop :=
  ∀ (services : σ) (past : List (Input π κ)) (ok : Bool)
    (is : List (Input π κ)), (∀ i ∈ is, i ≠ .stop) →
    let h := S.machine.run { services := services } past
    h.started = false →
      S.LosesNothing poll pollAlloc Gives (S.startHandle h ok) is

/-- The body of the polling functions is reliable, when what it returns is what
the caller has to be given. -/
theorem reliable (S : Services σ π κ ε τ ι)
    {Gives : String × ε → Polled τ ι → Prop}
    (hgives : ∀ reported, Gives reported (S.returned reported)) :
    S.Reliable (fun h env args => S.pollHandle h env args.delivery)
      (fun h env args => S.pollHandle h env args.delivery) Gives := by
  intro services past ok is his h hstopped
  have hsettled : Settled h :=
    S.machine.invariant (fun h i _ hh => hh.step i) (fun _ => rfl)
      (S.machine.along_of_forall (fun _ _ _ => trivial) _)
  have hpending : (S.startHandle h ok).pendingEvent = none := by
    rw [startHandle, hstopped]
    exact hsettled hstopped
  have hfollows : Handover.Follows S.returned
      (S.startHandle h ok).pendingEvent
      (S.machine.trace (S.startHandle h ok) is)
      (S.machine.run (S.startHandle h ok) is).pendingEvent :=
    Handover.Follows.run (fun _ _ hi => follows_step hi)
      (S.machine.along_of_forall (fun i hi _ => his i hi) _)
  constructor
  · obtain ⟨given, hproduced, htaken⟩ := hfollows.exists_given
    rw [hpending] at hproduced
    refine ⟨given, hproduced, ?_⟩
    rw [htaken, List.forall₂_map_right_iff]
    exact List.forall₂_same.mpr fun reported _ => hgives reported
  · intro env args hstarted hvalid
    have hdelivery := delivery_poll hvalid
    refine (pollSpec hstarted (by simp [hdelivery]) env).offers hgives
      (deliver_poll_iff hvalid) ?_
    intro source hheld
    rw [hdelivery] at hheld ⊢
    exact copyPdu_of_ne_ok hheld
  · intro env args hstarted hvalid
    have hdelivery := delivery_pollAlloc hvalid
    refine (pollSpec hstarted (by simp [hdelivery]) env).offers hgives
      (deliver_pollAlloc_iff hvalid) ?_
    intro source hheld
    rw [hdelivery] at hheld ⊢
    exact allocatePdu_of_ne_ok hheld

end Services

/-! ## The three handles lose nothing -/

theorem givesClient_returned (reported : String × ClientEvent) :
    GivesClient reported ((clientServices R).returned reported) where
  event := rfl
  info := rfl
  pdu := rfl
  outSize := rfl
  error := by simp [Services.returned, clientServices]

theorem givesServer_returned (reported : String × ServerEvent) :
    GivesServer reported ((serverServices R).returned reported) where
  event := rfl
  info := rfl
  pdu := rfl
  outSize := rfl
  error := by simp [Services.returned, serverServices]

end CInterface

open CInterface

/-- Polling a handle of the Action client, of the Action server or of the
multiplexed Action server between start and stop gives the caller the events that
the services reported, in order and once each, with their info and their bytes,
except for the one that is held for the next call with enough room. -/
theorem polling_loses_nothing (R : PduRegistry) :
    (clientServices R).Reliable (clientPoll R) (clientPollAlloc R)
        GivesClient ∧
      (serverServices R).Reliable (serverPoll R) (serverPollAlloc R)
        GivesServer ∧
      (muxServices R).Reliable (muxServerPoll R) (muxServerPollAlloc R)
        GivesServer :=
  ⟨Services.reliable _ (givesClient_returned R),
    Services.reliable _ (givesServer_returned R),
    Services.reliable _ (givesServer_returned R)⟩

/-- A Goal Request arrives; the first `poll` has too small a buffer. -/
def heldRequest : List (Input SendOracle ServerRequest) :=
  let net : SendOracle := fun _ _ => true
  let poll (capacity : ℕ) : Input SendOracle ServerRequest :=
    .poll net
      { outInfo := true, buffer := true, capacity := capacity, outSize := true }
  [.call (.receive ⟨"fibonacci", 0⟩ (sampleRequest requestKindGoal)), poll 8,
    poll 4096]

/-- The second `poll` gives the event that the first one holds. -/
theorem heldRequest_given :
    let S := serverServices sampleRegistry
    let server := startedServer sampleRegistry "fibonacci-server"
      "ActionServerEndpointImpl" (fun _ => true) (fibonacciConfiguration 1)
    let start := S.startHandle { services := server } true
    (S.machine.run start (heldRequest.take 2)).pendingEvent.isSome = true ∧
      (Handover.taken (S.machine.trace start heldRequest)).map
        (fun polled => polled.event) = [some .goalRequest] ∧
      S.LosesNothing (serverPoll sampleRegistry) (serverPollAlloc sampleRegistry)
        GivesServer start heldRequest :=
  ⟨by decide +kernel, by decide +kernel,
    (polling_loses_nothing sampleRegistry).2.1 _ [] true heldRequest
      (by simp [heldRequest]) rfl⟩

end Action
end HakoPduRpc
