import HakoPduRpc.Rpc.ServicesServer

/-!
# The multiplexing RPC server and its C interface

`RpcServicesMuxServer`: one `RpcServicesServer` for each connection.  A request
is handed out together with the id of the connection it came from, and a reply
is routed by this id.  The C interface stores the request under a token.

The threads of the transport store packets and set the disconnected flag of a
connection by themselves, also while `poll()` runs; `TransportEvent` lists what
they do and `PollEnv` says what they do where in `poll()`.  A flag that changes
during a pass over the slots is read once, so it changes before the pass or
after it.
-/

namespace HakoPduRpc
namespace Rpc

open KeyedList

/-- `ConnectionSlot`; a slot in the list always has its server. -/
structure ConnectionSlot where
  connectionId : UInt64
  server : RpcServicesServer
  disconnected : Bool := false

/-- `RpcMuxRequest`. -/
structure RpcMuxRequest where
  connectionId : UInt64
  request : RpcRequest

/-- The state of `RpcServicesMuxServer::Impl`; `mux` is the expected count of
the multiplexer while it is open. -/
structure RpcServicesMuxServer where
  mux : Option ℕ := none
  slots : List ConnectionSlot := []
  nextConnectionId : UInt64 := 1
  started : Bool := false

/-- What can be seen of the multiplexer: an id that is given to a connection and
whether its services came up, a connection that is turned away for lack of
room, with the number of the slots that are live at this moment and the expected
count, a connection that is closed, and a packet sent by a connection. -/
inductive MuxObs
  | accepted (connectionId : UInt64) (ok : Bool)
  | turnedAway (live expectedCount : ℕ)
  | closed (connectionId : UInt64)
  | sent (connectionId : UInt64) (sent : Sent)

/-- What the threads of the transport do; a connection is named by its place. -/
inductive TransportEvent
  | receive (slot : ℕ) (serviceName : String) (pdu : PduData)
  | disconnect (slot : ℕ)

/-- An entry of `take_endpoints()`: what the transport does before it is looked
at, whether it is an endpoint, and the services that the configuration file
gives when they can be initialized. -/
structure Arrival where
  before : List TransportEvent := []
  present : Bool := true
  services : Option (List (String × ServiceConfig))

/-- The polling of one connection: what the transport does before, the answers
of the PDU endpoint, and the request object on the stack. -/
structure SlotEnv where
  before : List TransportEvent := []
  net : String → PduEndpoint
  candidate : RpcRequest

/-- What `poll()` meets. -/
structure PollEnv where
  arrivals : List Arrival := []
  beforeFirstPass : List TransportEvent := []
  slot : ℕ → SlotEnv
  beforeLastPass : List TransportEvent := []

/-- `send_reply` or `send_cancel_reply` of the services of a connection. -/
def RpcServicesServer.answer (kind : ReplyKind) (net : String → PduEndpoint)
    (s : RpcServicesServer) (header : ServiceRequestHeader) (pdu : PduData) :
    Outcome RpcServicesServer Sent Unit :=
  match kind with
  | .reply => s.sendReply net header pdu
  | .cancelReply => s.sendCancelReply net header pdu

namespace RpcServicesMuxServer

variable (C : RpcConvertors) (s : RpcServicesMuxServer)

/-- `initialize`; `none` when the endpoints cannot be opened. -/
def initializeMux (expectedCount : Option ℕ) : RpcServicesMuxServer × Bool :=
  if s.mux.isSome then (s, true)
  else
    match expectedCount with
    | none => (s, false)
    | some count =>
        if count = 0 then (s, false) else ({ s with mux := some count }, true)

/-- `start`; `ok` is the outcome of the multiplexer's `start`. -/
def startMux (ok : Bool) : RpcServicesMuxServer × Bool :=
  if s.started then (s, true)
  else if s.mux.isNone ∨ ¬ok then (s, false)
  else ({ s with started := true }, true)

/-- `stop`. -/
def stop : RpcServicesMuxServer × List MuxObs :=
  ({ s with mux := none, slots := [], started := false },
    s.slots.map fun slot => .closed slot.connectionId)

/-- The threads of the transport at work. -/
def transport : TransportEvent → RpcServicesMuxServer
  | .receive slot serviceName pdu =>
      { s with
        slots := s.slots.modify slot fun slot =>
          { slot with server := slot.server.receive serviceName pdu } }
  | .disconnect slot =>
      { s with
        slots := s.slots.modify slot fun slot =>
          { slot with disconnected := true } }

/-- Several transport events. -/
def transportAll (s : RpcServicesMuxServer) (events : List TransportEvent) :
    RpcServicesMuxServer :=
  events.foldl transport s

/-- The number of the slots whose disconnected flag is not set. -/
def liveCount : ℕ := s.slots.countP (¬·.disconnected)

/-- The body of the loop of `accept_new_connections_`, for an endpoint. -/
def acceptConnection (capacity : ℕ)
    (services : Option (List (String × ServiceConfig))) :
    RpcServicesMuxServer × List MuxObs :=
  if s.slots.length ≥ capacity then (s, [.turnedAway s.liveCount capacity])
  else
    let id := s.nextConnectionId
    match services with
    | none =>
        ({ s with nextConnectionId := id + 1 }, [.accepted id false])
    | some services =>
        ({ s with
            nextConnectionId := id + 1
            slots := s.slots ++
              [{ connectionId := id
                 server := .initializeServices services none }] },
          [.accepted id true])

/-- `accept_new_connections_`. -/
def acceptNewConnections (capacity : ℕ) (s : RpcServicesMuxServer) :
    List Arrival → RpcServicesMuxServer × List MuxObs
  | [] => (s, [])
  | arrival :: rest =>
      let s := s.transportAll arrival.before
      let next :=
        if arrival.present then s.acceptConnection capacity arrival.services
        else (s, [])
      let later := acceptNewConnections capacity next.1 rest
      (later.1, next.2 ++ later.2)

/-- `cleanup_disconnected_`. -/
def cleanupDisconnected : RpcServicesMuxServer × List MuxObs :=
  ({ s with slots := s.slots.filter (¬·.disconnected) },
    (s.slots.filter (·.disconnected)).map fun slot => .closed slot.connectionId)

/-- The loop of `poll` over the slots, from a place on. -/
def pollSlots (env : ℕ → SlotEnv) (s : RpcServicesMuxServer) :
    List ℕ →
      Outcome RpcServicesMuxServer MuxObs
        (Option (ServerEventType × RpcMuxRequest))
  | [] => { state := s, result := none }
  | i :: rest =>
      let s := s.transportAll (env i).before
      match s.slots[i]? with
      | none => { state := s, result := none }
      | some slot =>
          let o := slot.server.poll C (env i).net (env i).candidate
          let s := { s with slots := s.slots.set i { slot with server := o.state } }
          let seen := o.effects.map (MuxObs.sent slot.connectionId)
          if o.result.1 ≠ .none then
            { state := s
              result := some (o.result.1, ⟨slot.connectionId, o.result.2⟩)
              effects := seen }
          else
            let later := pollSlots env s rest
            { later with effects := seen ++ later.effects }

/-- `poll`; `none` is `ServerEventType::NONE`. -/
def poll (env : PollEnv) :
    Outcome RpcServicesMuxServer MuxObs
      (Option (ServerEventType × RpcMuxRequest)) :=
  if ¬s.started then { state := s, result := none }
  else
    match s.mux with
    | none => { state := s, result := none }
    | some capacity =>
        let accepted := acceptNewConnections capacity s env.arrivals
        let first :=
          (accepted.1.transportAll env.beforeFirstPass).cleanupDisconnected
        let polled := pollSlots C env.slot first.1
          (List.range first.1.slots.length)
        if polled.result.isSome then
          { polled with effects := accepted.2 ++ first.2 ++ polled.effects }
        else
          let last :=
            (polled.state.transportAll env.beforeLastPass).cleanupDisconnected
          { state := last.1
            result := none
            effects := accepted.2 ++ first.2 ++ polled.effects ++ last.2 }

/-- `find_slot_`. -/
def findSlot (connectionId : UInt64) : Option ConnectionSlot :=
  lookup (·.connectionId) connectionId s.slots

/-- `send_reply` and `send_cancel_reply`. -/
def sendReply (net : String → PduEndpoint) (kind : ReplyKind)
    (request : RpcMuxRequest) (pdu : PduData) :
    Outcome RpcServicesMuxServer MuxObs Bool :=
  match s.findSlot request.connectionId with
  | none => { state := s, result := false }
  | some slot =>
      let o := slot.server.answer kind net request.request.header pdu
      { state :=
          { s with
            slots := modifyFirst (·.connectionId) request.connectionId
              (fun slot => { slot with server := o.state }) s.slots }
        result := true
        effects := o.effects.map (.sent request.connectionId) }

end RpcServicesMuxServer

/-! ## The C interface -/

/-- How the caller of `poll` and `poll_alloc` takes the packet: into a buffer
(`none` when there is none), or into memory that is allocated or not. -/
inductive Delivery
  | buffer (capacity : Option ℕ)
  | allocate (ok : Bool)

/-- `copy_pdu` or `allocate_pdu` succeeds. -/
def Delivery.takes : Delivery → PduData → Bool
  | .buffer capacity, pdu => RpcServerHandle.fits capacity pdu
  | .allocate ok, pdu => pdu.isEmpty || ok

inductive RpcError
  | ok
  | notRunning
  | notFound
  | call
deriving DecidableEq

/-- `hako_pdu_rpc_mux_server_handle`; `rpc` is empty after stop. -/
structure RpcMuxServerHandle where
  rpc : Option RpcServicesMuxServer
  nextToken : UInt64 := 1
  pendingRequests : List (UInt64 × RpcMuxRequest) := []
  started : Bool := false

/-- What can be seen of the handle: what the multiplexer does, a request that is
handed out with a token, a request that the caller could not take, and a reply
that is passed on to a connection. -/
inductive HandleObs
  | mux (obs : MuxObs)
  | polled (token : UInt64) (event : ServerEventType) (request : RpcMuxRequest)
  | untaken (request : RpcMuxRequest)
  | passed (token : UInt64) (connectionId : UInt64)
  | failed (token : UInt64)

namespace RpcMuxServerHandle

variable (C : RpcConvertors) (h : RpcMuxServerHandle)

/-- `hako_pdu_rpc_mux_server_create`, with the expected count that the
configuration of the endpoints gives. -/
def create (expectedCount : Option ℕ) : Option RpcMuxServerHandle :=
  let rpc := RpcServicesMuxServer.initializeMux {} expectedCount
  if rpc.2 then some { rpc := some rpc.1 } else none

/-- `hako_pdu_rpc_mux_server_start`. -/
def start (ok : Bool) : RpcMuxServerHandle :=
  if h.started then h
  else
    match h.rpc with
    | none => h
    | some rpc =>
        let started := rpc.startMux ok
        { h with rpc := some started.1, started := started.2 }

/-- `hako_pdu_rpc_mux_server_stop`. -/
def stop : RpcMuxServerHandle × List HandleObs :=
  ({ h with rpc := none, pendingRequests := [], started := false },
    match h.rpc with
    | none => []
    | some rpc => rpc.stop.2.map .mux)

/-- `store_request`; `emplace` keeps a request that has the token already. -/
def storeRequest (request : RpcMuxRequest) : RpcMuxServerHandle :=
  { h with
    nextToken := h.nextToken + 1
    pendingRequests :=
      if (lookup Prod.fst h.nextToken h.pendingRequests).isSome then
        h.pendingRequests
      else h.pendingRequests ++ [(h.nextToken, request)] }

/-- `hako_pdu_rpc_mux_server_poll` and `hako_pdu_rpc_mux_server_poll_alloc`; a
request that the caller cannot take gets no token. -/
def poll (env : PollEnv) (delivery : Delivery) :
    RpcMuxServerHandle × List HandleObs :=
  match h.started, h.rpc with
  | true, some rpc =>
      let o := rpc.poll C env
      let polled := { h with rpc := some o.state }
      let seen := o.effects.map HandleObs.mux
      match o.result with
      | none => (polled, seen)
      | some (event, request) =>
          if delivery.takes request.request.pdu then
            (polled.storeRequest request,
              seen ++ [.polled h.nextToken event request])
          else (polled, seen ++ [.untaken request])
  | _, _ => (h, [])

/-- `take_request`: the request is taken out of the table. -/
def takeRequest (token : UInt64) :
    RpcMuxServerHandle × Option RpcMuxRequest :=
  match lookup Prod.fst token h.pendingRequests with
  | none => (h, none)
  | some entry =>
      ({ h with
          pendingRequests := removeFirst Prod.fst token h.pendingRequests },
        some entry.2)

/-- `hako_pdu_rpc_mux_server_send_reply` and
`hako_pdu_rpc_mux_server_send_cancel_reply`. -/
def answer (net : String → PduEndpoint) (kind : ReplyKind) (token : UInt64)
    (pdu : PduData) : Outcome RpcMuxServerHandle HandleObs RpcError :=
  match h.started, h.rpc with
  | true, some rpc =>
      match h.takeRequest token with
      | (h, none) =>
          { state := h, result := .notFound, effects := [.failed token] }
      | (h, some request) =>
          let o := rpc.sendReply net kind request pdu
          let h := { h with rpc := some o.state }
          let seen := o.effects.map HandleObs.mux
          if o.result then
            { state := h
              result := .ok
              effects := .passed token request.connectionId :: seen }
          else
            { state := h
              result := .call
              effects := .failed token :: seen }
  | _, _ => { state := h, result := .notRunning, effects := [.failed token] }

/-! ## Runs -/

/-- A step of the environment or of the application. -/
inductive Input
  | transport (event : TransportEvent)
  | start (ok : Bool)
  | stop
  | poll (env : PollEnv) (delivery : Delivery)
  | answer (net : String → PduEndpoint) (kind : ReplyKind) (token : UInt64)
      (pdu : PduData)

/-- The handle under its inputs. -/
def machine (C : RpcConvertors) :
    Machine RpcMuxServerHandle Input HandleObs where
  step h
    | .transport event =>
        ({ h with rpc := h.rpc.map (·.transport event) }, [])
    | .start ok => (h.start ok, [])
    | .stop => h.stop
    | .poll env delivery => h.poll C env delivery
    | .answer net kind token pdu =>
        let o := h.answer net kind token pdu
        (o.state, o.effects)

end RpcMuxServerHandle

end Rpc
end HakoPduRpc
