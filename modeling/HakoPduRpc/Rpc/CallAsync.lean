import HakoPduRpc.Rpc.CInterface

/-!
# The client of the Python package

`RpcClient.call_async` hands a request to a worker thread and lets no second
request start until the worker is done.  The worker sends the request, polls for
its end, and after a timeout sends a cancel request and polls on.  It gives up
when its own deadline passes, and on any exception.

The steps of the worker are one turn of a loop each.  Between them the
application may cancel, other threads may try to call, and packets arrive.
-/

namespace HakoPduRpc
namespace Rpc

/-! ## The worker and the client -/

/-- What the C functions see of a Python string. -/
def cString (name : String) : String :=
  String.ofList (name.toList.takeWhile (· ≠ Char.ofNat 0))

/-- The name that `poll` returns for the service that the C functions find under
this name, in bytes: `copy_name`, and then `ffi.string`. -/
def returnedName (name : List UInt8) : List UInt8 := name.takeWhile (· ≠ 0)

/-- The arguments of `call_async`, but for the deadlines and the interval, which
the steps of the worker refer to. -/
structure CallArguments where
  serviceName : String
  pdu : PduData
  timeoutUsec : ℤ
  cancelOnTimeout : Bool

/-- Where the worker stands. -/
inductive Stage
  | sendWhenConnected
  | callImpl
  | cancelOnTimeout
  | waitAfterTimeout
deriving DecidableEq, Repr

structure Worker where
  call : CallArguments
  stage : Stage

/-- The exceptions of the worker. -/
inductive CallError
  /-- `native RPC error: ...`. -/
  | native
  /-- `unexpected service response: ...`, or a name that is not UTF-8. -/
  | unexpectedService (name : List UInt8)
  /-- `RPC terminal event was not received: ...`. -/
  | noTerminalEvent
  /-- `RPC cancel completion was not received after timeout: ...`. -/
  | noCancelCompletion
  /-- `RPC canceled: ...`. -/
  | canceled
  /-- `RPC timed out: ...`. -/
  | timedOut
  /-- `RPC timed out and was canceled: ...`. -/
  | timedOutAndCanceled
  /-- The timeout is no `uint64_t`. -/
  | overflow
  /-- `time.sleep` refuses the interval. -/
  | sleep
deriving DecidableEq

/-- `RpcClient` of the Python package; `inflight` is the worker that holds
`_inflight_lock`. -/
structure RpcClient where
  client : RpcClientHandle
  started : Bool := false
  inflight : Option Worker := none

/-- What a step of the worker meets: the transport, the native clock, whether the
deadline has passed, whether memory is allocated for the packet, and whether
`time.sleep` returns. -/
structure WorkEnv where
  net : PduEndpoint
  now : String → UInt64
  expired : Bool
  allocated : Bool
  slept : Bool

/-- A request that was sent: the id in its packet, and the id that the endpoint
waits for. -/
structure SentRequest where
  serviceName : String
  packetId : UInt32
  trackedId : UInt32
deriving DecidableEq

/-- The request of a call that the endpoint has sent. -/
def CallArguments.sentRequest (C : RpcConvertors) (call : CallArguments)
    (endpoint : RpcClientEndpointImpl) : SentRequest where
  serviceName := cString call.serviceName
  packetId := (C.request.pdu2cpp call.pdu
    ServiceLayout.emptyRequest.header).requestId
  trackedId := endpoint.clientState.requestId

/-- What can be seen of a step. -/
inductive CallObs
  | refused
  | sent (request : SentRequest)
  | completed (serviceName : String) (outcome : Except CallError PduData)
deriving DecidableEq

/-- What one turn of a polling loop comes to. -/
inductive Turn
  | again
  | event (event : ClientEventType) (pdu : PduData)
  | raised (error : CallError)

namespace RpcClient

variable (C : RpcConvertors) (s : RpcClient)

/-- The endpoint that the C functions find under this name. -/
def endpoint? (serviceName : String) : Option RpcClientEndpointImpl :=
  s.client.rpc.rpcEndpoints.find? (cString serviceName)

def setRpc (rpc : RpcServicesClient) : RpcClient := { s with client := ⟨rpc⟩ }

/-- `hako_pdu_rpc_client_call` and `hako_pdu_rpc_client_cancel`: `f` is the
operation of the services, and the result is whether there is no error. -/
def native (serviceName : String)
    (f : RpcServicesClient → String → Outcome RpcServicesClient Sent Bool) :
    Outcome RpcClient Sent Bool :=
  if cString serviceName = "" ∨ s.started = false then
    { state := s, result := false }
  else (f s.client.rpc (cString serviceName)).embed s.setRpc

/-- `_client.call`. -/
def nativeCall (net : PduEndpoint) (now : String → UInt64)
    (serviceName : String) (pdu : PduData) (timeoutUsec : UInt64) :
    Outcome RpcClient Sent Bool :=
  s.native serviceName fun rpc name =>
    rpc.call net (now name) name pdu timeoutUsec

/-- `cancel`. -/
def cancel (net : PduEndpoint) (serviceName : String) :
    Outcome RpcClient Sent Bool :=
  s.native serviceName fun rpc name => rpc.sendCancelRequest C net name

/-- `create_request_buffer`; a buffer that cannot be allocated has drawn its id
all the same. -/
def createRequestBuffer (net : PduEndpoint) (serviceName : String) :
    RpcClient :=
  if cString serviceName = "" ∨ s.started = false then s
  else s.setRpc
    (s.client.rpc.createRequestBuffer C net (cString serviceName)).1

/-- `_client.poll`. -/
def poll (now : String → UInt64) (allocated : Bool) :
    Outcome RpcClient ClientReport (Polled ClientEventType ResponseInfo) :=
  if s.started = false then
    { state := s, result := { error := .notRunning } }
  else
    let response : RpcResponse := ⟨RpcClientEndpointImpl.blankHeader, []⟩
    clientReporting.finish (s.setRpc (s.client.rpc.poll C now response).1)
      (.allocate allocated) (s.client.reported C now response)

/-- The end of `run`: the lock is released and the future completed. -/
def complete (w : Worker) (outcome : Except CallError PduData) :
    RpcClient × List CallObs :=
  ({ s with inflight := none }, [.completed w.call.serviceName outcome])

def advance (w : Worker) (stage : Stage) : RpcClient :=
  { s with inflight := some { w with stage := stage } }

/-- One turn of `_send_when_connected`. -/
def sendWhenConnected (w : Worker) (env : WorkEnv) :
    RpcClient × List CallObs :=
  if w.call.timeoutUsec < 0 ∨ 18446744073709551616 ≤ w.call.timeoutUsec then
    s.complete w (.error .overflow)
  else
    let o := s.nativeCall env.net env.now w.call.serviceName w.call.pdu
      (UInt64.ofNat w.call.timeoutUsec.toNat)
    if o.result then
      (o.state.advance w .callImpl,
        ((o.state.endpoint? w.call.serviceName).map fun endpoint =>
          .sent (w.call.sentRequest C endpoint)).toList)
    else if env.expired then o.state.complete w (.error .native)
    else if env.slept then (o.state, [])
    else o.state.complete w (.error .sleep)

/-- `_client.poll`, the sleep when there is nothing, and the check of the
name. -/
def turn (w : Worker) (env : WorkEnv) : RpcClient × Turn :=
  let o := s.poll C env.now env.allocated
  if o.result.error ≠ .ok then (o.state, .raised .native)
  else
    let event := o.result.event.getD .none
    let name := returnedName ((o.result.info.map (·.serviceName)).getD [])
    if event = .none then
      (o.state, if env.slept then .again else .raised .sleep)
    else if name ≠ w.call.serviceName.toUTF8.toList then
      (o.state, .raised (.unexpectedService name))
    else (o.state, .event event (o.result.pdu.getD []))

/-- One turn of the loop of `_call_impl`. -/
def callImpl (w : Worker) (env : WorkEnv) : RpcClient × List CallObs :=
  if env.expired then s.complete w (.error .noTerminalEvent)
  else
    let t := s.turn C w env
    match t.2 with
    | .raised error => t.1.complete w (.error error)
    | .event .responseIn pdu => t.1.complete w (.ok pdu)
    | .event .responseCancel _ => t.1.complete w (.error .canceled)
    | .event .responseTimeout _ =>
        if w.call.cancelOnTimeout then (t.1.advance w .cancelOnTimeout, [])
        else t.1.complete w (.error .timedOut)
    | .event .none _ | .again => (t.1, [])

/-- `self._client.cancel(service_name)` after a timeout. -/
def cancelAfterTimeout (w : Worker) (env : WorkEnv) :
    RpcClient × List CallObs :=
  let o := s.cancel C env.net w.call.serviceName
  if o.result then (o.state.advance w .waitAfterTimeout, [])
  else o.state.complete w (.error .native)

/-- One turn of the loop of `_wait_after_timeout`. -/
def waitAfterTimeout (w : Worker) (env : WorkEnv) :
    RpcClient × List CallObs :=
  if env.expired then s.complete w (.error .noCancelCompletion)
  else
    let t := s.turn C w env
    match t.2 with
    | .raised error => t.1.complete w (.error error)
    | .event .responseIn pdu => t.1.complete w (.ok pdu)
    | .event .responseCancel _ =>
        t.1.complete w (.error .timedOutAndCanceled)
    | .event _ _ | .again => (t.1, [])

/-- One step of the worker. -/
def work (w : Worker) (env : WorkEnv) : RpcClient × List CallObs :=
  match w.stage with
  | .sendWhenConnected => s.sendWhenConnected C w env
  | .callImpl => s.callImpl C w env
  | .cancelOnTimeout => s.cancelAfterTimeout C w env
  | .waitAfterTimeout => s.waitAfterTimeout C w env

/-- A step of the application, of the transport or of the worker.  A future that
is cancelled calls `cancel`. -/
inductive Input
  | start (ok : Bool)
  | createRequestBuffer (net : PduEndpoint) (serviceName : String)
  | callAsync (call : CallArguments)
  | cancel (net : PduEndpoint) (serviceName : String)
  | receive (serviceName : String) (pdu : PduData)
  | work (env : WorkEnv)

/-- The client under its inputs. -/
def machine : Machine RpcClient Input CallObs where
  step s
    | .start ok => ({ s with started := s.started || ok }, [])
    | .createRequestBuffer net serviceName =>
        (s.createRequestBuffer C net serviceName, [])
    | .callAsync call =>
        match s.inflight with
        | some _ => (s, [.refused])
        | none => ({ s with inflight := some ⟨call, .sendWhenConnected⟩ }, [])
    | .cancel net serviceName => ((s.cancel C net serviceName).state, [])
    | .receive serviceName pdu =>
        (s.setRpc (s.client.rpc.receive serviceName pdu), [])
    | .work env =>
        match s.inflight with
        | none => (s, [])
        | some w => s.work C w env

/-- The client of these services, before `start`. -/
def create (clientName : String) (services : List String) : RpcClient where
  client := ⟨.initializeServices clientName services⟩

end RpcClient

end Rpc
end HakoPduRpc
