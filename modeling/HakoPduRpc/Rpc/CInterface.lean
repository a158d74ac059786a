import HakoPduRpc.Lib.Handover
import HakoPduRpc.Rpc.MuxServer
import HakoPduRpc.Rpc.ServicesClient

/-!
# Polling through the C interface of the RPC services

The polling functions of `c_rpc.cpp` and `c_rpc_mux.cpp` ask the services first
and copy the packet to the caller afterwards.  They have no place where an event
could wait: when the packet does not fit, the caller gets an error and the event
is gone, although the services have already taken the response or accepted the
request.  This module says what polling comes to as long as every packet fits.
-/

namespace HakoPduRpc
namespace Rpc

/-! ## What polling functions return -/

/-- `hako_pdu_rpc_error_t`, as far as polling returns it. -/
inductive PollError
  | ok
  | notRunning
  | bufferTooSmall
  | internal
deriving DecidableEq, Repr

/-- `HAKO_PDU_RPC_NAME_MAX`. -/
def nameMax : ℕ := 128

/-- `copy_name`: the bytes before the terminating zero. -/
def copyName (name : String) : List UInt8 :=
  name.toUTF8.toList.take (nameMax - 1)

/-- What comes of `copy_pdu` or `allocate_pdu`. -/
def Delivery.deliver (pdu : PduData) : Delivery → PollError
  | .buffer capacity =>
      if RpcServerHandle.fits capacity pdu then .ok else .bufferTooSmall
  | .allocate ok => if pdu.isEmpty || ok then .ok else .internal

theorem Delivery.deliver_eq_ok_iff {delivery : Delivery} {pdu : PduData} :
    delivery.deliver pdu = .ok ↔ delivery.takes pdu = true := by
  cases delivery with
  | buffer capacity => simp [Delivery.deliver, Delivery.takes]
  | allocate ok => cases ok <;> simp [Delivery.deliver, Delivery.takes]

/-- What a polling function gives its caller; the event is `none` for `NONE`. -/
structure Polled (τ ι : Type) where
  event : Option τ := none
  info : Option ι := none
  pdu : Option PduData := none
  error : PollError := .ok
deriving DecidableEq

/-- How an event that the services report is written out. -/
structure Reporting (ε τ ι : Type) where
  type : ε → τ
  info : ε → ι
  pdu : ε → PduData

namespace Reporting

variable {σ ε τ ι : Type} (P : Reporting ε τ ι)

/-- What the caller gets of an event. -/
def returned (report : ε) : Polled τ ι where
  event := some (P.type report)
  info := some (P.info report)
  pdu := some (P.pdu report)

/-- The end of the polling functions: what the services reported is copied to
the caller, or given up.  The effect is what the services reported. -/
def finish (state : σ) (delivery : Delivery) (reported : Option ε) :
    Outcome σ ε (Polled τ ι) :=
  match reported with
  | none => { state := state, result := {} }
  | some report =>
      let result := delivery.deliver (P.pdu report)
      { state := state
        result := if result ≠ .ok then { error := result } else P.returned report
        effects := [report] }

@[simp] theorem finish_state (state : σ) (delivery : Delivery)
    (reported : Option ε) :
    (P.finish state delivery reported).state = state := by
  cases reported <;> rfl

/-- A call, as a step of the hand-over. -/
def observe (o : Outcome σ ε (Polled τ ι)) :
    List (Handover.Obs ε (Polled τ ι)) :=
  o.effects.map .produced ++
    match o.result.event, o.result.error with
    | some _, _ => [.taken o.result]
    | none, .ok => [.nothing]
    | none, .bufferTooSmall | none, .internal => [.refused]
    | none, .notRunning => []

variable {P} {state : σ} {delivery : Delivery} {reported : Option ε}

theorem finish_of_takes {report : ε}
    (htakes : delivery.takes (P.pdu report) = true) :
    P.finish state delivery (some report) =
      { state := state, result := P.returned report, effects := [report] } := by
  rw [finish, if_neg (not_not_intro (Delivery.deliver_eq_ok_iff.mpr htakes))]

/-- What the caller can take is handed over at once. -/
theorem follows_finish
    (htakes : ∀ report, reported = some report →
      delivery.takes (P.pdu report) = true) :
    Handover.Follows P.returned none
      (observe (P.finish state delivery reported)) none := by
  cases reported with
  | none => exact .nothing (.nil _)
  | some report =>
      rw [finish_of_takes (htakes report rfl)]
      exact .produced (.taken (.nil _))

theorem finish_error
    (htakes : ∀ report, reported = some report →
      delivery.takes (P.pdu report) = true) :
    (P.finish state delivery reported).result.error = .ok := by
  cases reported with
  | none => rfl
  | some report =>
      rw [finish_of_takes (htakes report rfl)]
      rfl

/-- What polling should come to along a run: the caller gets what the services
reported, but for at most one event that is held back for the next call, and a
call that fails keeps what it could not give out. -/
structure LosesNothing {State Input : Type} (P : Reporting ε τ ι)
    (M : Machine State Input (Handover.Obs ε (Polled τ ι)))
    (Keeps : State → Input → Prop) (h : State) (is : List Input) : Prop where
  accounted : ∃ held : Option ε,
    Handover.Follows P.returned none (M.trace h is) held ∧
      (Handover.produced (M.trace h is)).map P.returned =
        Handover.taken (M.trace h is) ++ held.toList.map P.returned
  keeps : M.Along Keeps h is

theorem losesNothing_of_fits {State Input : Type}
    {M : Machine State Input (Handover.Obs ε (Polled τ ι))}
    {Keeps Fits : State → Input → Prop}
    (hfollows : ∀ h i, Fits h i →
      Handover.Follows P.returned none (M.step h i).2 none)
    (hkeeps : ∀ h i, Fits h i → Keeps h i) {h : State} {is : List Input}
    (hfits : M.Along Fits h is) : LosesNothing P M Keeps h is := by
  have hrun : Handover.Follows P.returned none (M.trace h is) none :=
    @Handover.Follows.run _ _ _ _ _ M (fun _ => none) Fits hfollows _ _ hfits
  exact ⟨⟨none, hrun, hrun.accounted⟩, hfits.mono _ hkeeps⟩

end Reporting

open Reporting

/-! ## The client -/

/-- `hako_pdu_rpc_client_handle`, between start and stop. -/
structure RpcClientHandle where
  rpc : RpcServicesClient

/-- `hako_pdu_rpc_response_info_t`. -/
structure ResponseInfo where
  serviceName : List UInt8
  pduSize : ℕ
deriving DecidableEq

/-- What `RpcServicesClient::poll` reports. -/
structure ClientReport where
  serviceName : String
  event : ClientEventType
  response : RpcResponse
deriving DecidableEq

def clientReporting : Reporting ClientReport ClientEventType ResponseInfo where
  type report := report.event
  info report := ⟨copyName report.serviceName, report.response.pdu.length⟩
  pdu report := report.response.pdu

namespace RpcClientHandle

variable (C : RpcConvertors) (h : RpcClientHandle)

/-- What the services report. -/
def reported (now : String → UInt64) (response : RpcResponse) :
    Option ClientReport :=
  (h.rpc.poll C now response).2.1.map fun event =>
    ⟨event.1, event.2, (h.rpc.poll C now response).2.2⟩

/-- `hako_pdu_rpc_client_poll`. -/
def poll (now : String → UInt64) (response : RpcResponse)
    (capacity : Option ℕ) :
    Outcome RpcClientHandle ClientReport (Polled ClientEventType ResponseInfo) :=
  clientReporting.finish ⟨(h.rpc.poll C now response).1⟩ (.buffer capacity)
    (h.reported C now response)

/-- A call of the application or of the transport. -/
inductive Input
  | receive (serviceName : String) (pdu : PduData)
  | createRequestBuffer (net : PduEndpoint) (serviceName : String)
  | call (net : PduEndpoint) (now : UInt64) (serviceName : String)
      (pdu : PduData) (timeoutUsec : UInt64)
  | cancel (net : PduEndpoint) (serviceName : String)
  | poll (now : String → UInt64) (response : RpcResponse)
      (capacity : Option ℕ)

/-- The handle under its inputs. -/
def machine :
    Machine RpcClientHandle Input
      (Handover.Obs ClientReport (Polled ClientEventType ResponseInfo)) where
  step h
    | .receive serviceName pdu => (⟨h.rpc.receive serviceName pdu⟩, [])
    | .createRequestBuffer net serviceName =>
        (⟨(h.rpc.createRequestBuffer C net serviceName).1⟩, [])
    | .call net now serviceName pdu timeoutUsec =>
        (⟨(h.rpc.call net now serviceName pdu timeoutUsec).state⟩, [])
    | .cancel net serviceName =>
        (⟨(h.rpc.sendCancelRequest C net serviceName).state⟩, [])
    | .poll now response capacity =>
        let o := h.poll C now response capacity
        (o.state, observe o)

/-- A poll that reports something has a buffer for the packet. -/
def Fits (h : RpcClientHandle) : Input → Prop
  | .poll now response capacity =>
      ∀ report, h.reported C now response = some report →
        RpcServerHandle.fits capacity report.response.pdu = true
  | _ => True

/-- A poll that fails for want of room has not taken the response: the service
still waits for it. -/
def Keeps (h : RpcClientHandle) : Input → Prop
  | .poll now response capacity =>
      (h.poll C now response capacity).result.error = .bufferTooSmall →
        ∀ report ∈ (h.poll C now response capacity).effects,
          ∃ endpoint, (h.poll C now response capacity).state.rpc.rpcEndpoints.find?
              report.serviceName = some endpoint ∧
            endpoint.clientState.state ≠ .idle
  | _ => True

variable {C} {h}

theorem follows_step {i : Input} (hfits : Fits C h i) :
    Handover.Follows clientReporting.returned none ((machine C).step h i).2
      none := by
  cases i with
  | receive serviceName pdu => exact .nil _
  | createRequestBuffer net serviceName => exact .nil _
  | call net now serviceName pdu timeoutUsec => exact .nil _
  | cancel net serviceName => exact .nil _
  | poll now response capacity => exact follows_finish hfits

theorem keeps_of_fits {i : Input} (hfits : Fits C h i) : Keeps C h i := by
  cases i with
  | poll now response capacity =>
      intro herror
      have hok : (h.poll C now response capacity).result.error = .ok :=
        finish_error hfits
      rw [hok] at herror
      cases herror
  | _ => trivial

end RpcClientHandle

/-! ## The server -/

/-- `hako_pdu_rpc_request_info_t`. -/
structure RequestInfo where
  requestToken : UInt64
  serviceName : List UInt8
  clientName : List UInt8
  pduSize : ℕ
deriving DecidableEq

/-- What the services of a server report, and the token that is next. -/
structure ServerReport where
  token : UInt64
  event : ServerEventType
  request : RpcRequest
deriving DecidableEq

def serverReporting : Reporting ServerReport ServerEventType RequestInfo where
  type report := report.event
  info report :=
    { requestToken := report.token
      serviceName := copyName report.request.header.serviceName
      clientName := copyName report.request.clientName
      pduSize := report.request.pdu.length }
  pdu report := report.request.pdu

/-- A request that was accepted is stored under a token, in a table of these
requests, when the call fails for want of room. -/
def KeepsRequest {σ : Type}
    (o : Outcome σ ServerReport (Polled ServerEventType RequestInfo))
    (stored : List RpcRequest) : Prop :=
  o.result.error ≠ .ok → ∀ report ∈ o.effects, report.event = .requestIn →
    report.request ∈ stored

namespace RpcServerHandle

variable (C : RpcConvertors) (h : RpcServerHandle)

/-- What the services report. -/
def reported (net : String → PduEndpoint) (request : RpcRequest) :
    Option ServerReport :=
  let o := h.rpc.poll C net request
  if o.result.1 = .none then none
  else some ⟨h.nextToken, o.result.1, o.result.2⟩

/-- What `hako_pdu_rpc_server_poll` returns. -/
def pollReturn (net : String → PduEndpoint) (request : RpcRequest)
    (capacity : Option ℕ) :
    Outcome RpcServerHandle ServerReport (Polled ServerEventType RequestInfo) :=
  serverReporting.finish (h.poll C net request capacity).state
    (.buffer capacity) (h.reported C net request)

/-- The handle under its inputs, as its caller sees it. -/
def callMachine :
    Machine RpcServerHandle Input
      (Handover.Obs ServerReport (Polled ServerEventType RequestInfo)) where
  step h
    | .poll net request capacity =>
        let o := h.pollReturn C net request capacity
        (o.state, observe o)
    | i => (((machine C).step h i).1, [])

/-- A poll that reports something has a buffer for the packet. -/
def Fits (h : RpcServerHandle) : Input → Prop
  | .poll net request capacity =>
      ∀ report, h.reported C net request = some report →
        fits capacity report.request.pdu = true
  | _ => True

/-- A poll that fails for want of room leaves no accepted request without its
token. -/
def Keeps (h : RpcServerHandle) : Input → Prop
  | .poll net request capacity =>
      KeepsRequest (h.pollReturn C net request capacity)
        ((h.pollReturn C net request capacity).state.pendingRequests.map Prod.snd)
  | _ => True

variable {C} {h}

theorem follows_step {i : Input} (hfits : Fits C h i) :
    Handover.Follows serverReporting.returned none
      ((callMachine C).step h i).2 none := by
  cases i with
  | receive serviceName pdu => exact .nil _
  | answer net kind target pdu => exact .nil _
  | poll net request capacity => exact follows_finish hfits

theorem keeps_of_fits {i : Input} (hfits : Fits C h i) : Keeps C h i := by
  cases i with
  | poll net request capacity =>
      intro herror
      have hok : (h.pollReturn C net request capacity).result.error = .ok :=
        finish_error hfits
      exact absurd hok herror
  | _ => trivial

end RpcServerHandle

/-! ## The multiplexed server -/

namespace RpcMuxServerHandle

variable (C : RpcConvertors) (h : RpcMuxServerHandle)

/-- What the services report. -/
def reported (rpc : RpcServicesMuxServer) (env : PollEnv) :
    Option ServerReport :=
  (rpc.poll C env).result.map fun event =>
    ⟨h.nextToken, event.1, event.2.request⟩

/-- What `hako_pdu_rpc_mux_server_poll` and
`hako_pdu_rpc_mux_server_poll_alloc` return. -/
def pollReturn (env : PollEnv) (delivery : Delivery) :
    Outcome RpcMuxServerHandle ServerReport
      (Polled ServerEventType RequestInfo) :=
  match h.started, h.rpc with
  | true, some rpc =>
      serverReporting.finish (h.poll C env delivery).1 delivery
        (h.reported C rpc env)
  | _, _ => { state := h, result := { error := .notRunning } }

/-- The handle under its inputs, as its caller sees it. -/
def callMachine :
    Machine RpcMuxServerHandle Input
      (Handover.Obs ServerReport (Polled ServerEventType RequestInfo)) where
  step h
    | .poll env delivery =>
        let o := h.pollReturn C env delivery
        (o.state, observe o)
    | i => (((machine C).step h i).1, [])

/-- A poll that reports something has room for the packet. -/
def Fits (h : RpcMuxServerHandle) : Input → Prop
  | .poll env delivery =>
      ∀ rpc, h.rpc = some rpc → ∀ report, h.reported C rpc env = some report →
        delivery.takes report.request.pdu = true
  | _ => True

/-- A poll that fails for want of room leaves no accepted request without its
token. -/
def Keeps (h : RpcMuxServerHandle) : Input → Prop
  | .poll env delivery =>
      KeepsRequest (h.pollReturn C env delivery)
        ((h.pollReturn C env delivery).state.pendingRequests.map (·.2.request))
  | _ => True

variable {C} {h}

theorem pollReturn_cases (env : PollEnv) (delivery : Delivery) :
    (h.pollReturn C env delivery =
        { state := h, result := { error := .notRunning } }) ∨
      ∃ rpc, h.rpc = some rpc ∧ h.pollReturn C env delivery =
        serverReporting.finish (h.poll C env delivery).1 delivery
          (h.reported C rpc env) := by
  unfold pollReturn
  split
  · next rpc _ hrpc => exact Or.inr ⟨rpc, hrpc, rfl⟩
  · exact Or.inl rfl

theorem follows_step {i : Input} (hfits : Fits C h i) :
    Handover.Follows serverReporting.returned none
      ((callMachine C).step h i).2 none := by
  cases i with
  | poll env delivery =>
      change Handover.Follows _ none (observe (h.pollReturn C env delivery)) none
      rcases @pollReturn_cases C h env delivery with hcall | ⟨rpc, hrpc, hcall⟩
      · rw [hcall]
        exact .nil _
      · rw [hcall]
        exact follows_finish (hfits rpc hrpc)
  | _ => exact .nil _

theorem keeps_of_fits {i : Input} (hfits : Fits C h i) : Keeps C h i := by
  cases i with
  | poll env delivery =>
      intro herror report hreport
      rcases @pollReturn_cases C h env delivery with hcall | ⟨rpc, hrpc, hcall⟩
      · rw [hcall] at hreport
        cases hreport
      · rw [hcall] at herror
        exact absurd (finish_error (hfits rpc hrpc)) herror
  | _ => trivial

end RpcMuxServerHandle

/-! ## Runs -/

/-- As long as the caller has room for the packet of every event that the
services report, polling a client, a server or a multiplexed server gives it all
of them, in order and once each. -/
theorem polling_loses_nothing_of_fits (C : RpcConvertors) :
    (∀ (h : RpcClientHandle) (is : List RpcClientHandle.Input),
      (RpcClientHandle.machine C).Along (RpcClientHandle.Fits C) h is →
        LosesNothing clientReporting (RpcClientHandle.machine C)
          (RpcClientHandle.Keeps C) h is) ∧
      (∀ (h : RpcServerHandle) (is : List RpcServerHandle.Input),
        (RpcServerHandle.callMachine C).Along (RpcServerHandle.Fits C) h is →
          LosesNothing serverReporting (RpcServerHandle.callMachine C)
            (RpcServerHandle.Keeps C) h is) ∧
      ∀ (h : RpcMuxServerHandle) (is : List RpcMuxServerHandle.Input),
        (RpcMuxServerHandle.callMachine C).Along (RpcMuxServerHandle.Fits C) h
            is →
          LosesNothing serverReporting (RpcMuxServerHandle.callMachine C)
            (RpcMuxServerHandle.Keeps C) h is := by
  refine ⟨?_, ?_, ?_⟩
  · intro h is hfits
    exact losesNothing_of_fits (fun _ _ => RpcClientHandle.follows_step)
      (fun _ _ => RpcClientHandle.keeps_of_fits) hfits
  · intro h is hfits
    exact losesNothing_of_fits (fun _ _ => RpcServerHandle.follows_step)
      (fun _ _ => RpcServerHandle.keeps_of_fits) hfits
  · intro h is hfits
    exact losesNothing_of_fits (fun _ _ => RpcMuxServerHandle.follows_step)
      (fun _ _ => RpcMuxServerHandle.keeps_of_fits) hfits

section Sample

open ServiceLayout RpcClientEndpointImpl

/-- A client of one service. -/
def addClient : RpcClientHandle := ⟨.initializeServices "Client" ["Add"]⟩

/-- The client makes a request, the answer arrives, and it polls twice, with
buffers of these sizes. -/
def answeredCall (first second : ℕ) : List RpcClientHandle.Input :=
  [.createRequestBuffer sampleNet "Add",
    .call sampleNet 0 "Add" (servicePacket 1 operationRequest) 0,
    .receive "Add" (responsePacket ⟨1, "Add", "Client", 3, 100, 0⟩),
    .poll (fun _ => 0) ⟨blankHeader, []⟩ (some first),
    .poll (fun _ => 0) ⟨blankHeader, []⟩ (some second)]

/-- With large buffers the response is handed over. -/
theorem answeredCall_loses_nothing :
    LosesNothing clientReporting (RpcClientHandle.machine layoutConvertors)
      (RpcClientHandle.Keeps layoutConvertors) addClient
      (answeredCall 300 300) := by
  refine (polling_loses_nothing_of_fits layoutConvertors).1 addClient _
    ⟨trivial, trivial, trivial, ?_, ?_, trivial⟩
  · intro report hreport
    have hall : (RpcClientHandle.reported layoutConvertors
        ((RpcClientHandle.machine layoutConvertors).run addClient
          ((answeredCall 300 300).take 3)) (fun _ => 0) ⟨blankHeader, []⟩).all
        (fun report => RpcServerHandle.fits (some 300) report.response.pdu) =
          true := by
      decide +kernel
    change RpcClientHandle.reported layoutConvertors
      ((RpcClientHandle.machine layoutConvertors).run addClient
        ((answeredCall 300 300).take 3)) (fun _ => 0) ⟨blankHeader, []⟩ =
          some report at hreport
    rw [hreport] at hall
    exact hall
  · intro report hreport
    have hnone : RpcClientHandle.reported layoutConvertors
        ((RpcClientHandle.machine layoutConvertors).run addClient
          ((answeredCall 300 300).take 4)) (fun _ => 0) ⟨blankHeader, []⟩ =
            none := by
      decide +kernel
    change RpcClientHandle.reported layoutConvertors
      ((RpcClientHandle.machine layoutConvertors).run addClient
        ((answeredCall 300 300).take 4)) (fun _ => 0) ⟨blankHeader, []⟩ =
          some report at hreport
    rw [hnone] at hreport
    cases hreport

/-- With a buffer that is too small the response is gone: the client is idle, and
a large buffer gets nothing. -/
theorem answeredCall_loses_response :
    ¬∀ (h : RpcClientHandle) (is : List RpcClientHandle.Input),
      LosesNothing clientReporting (RpcClientHandle.machine layoutConvertors)
        (RpcClientHandle.Keeps layoutConvertors) h is := by
  intro h
  have hkeeps := (h addClient (answeredCall 0 300)).keeps.2.2.2.1
  obtain ⟨endpoint, hfind, hbusy⟩ := hkeeps (by decide +kernel)
    ⟨"Add", .responseIn, ⟨⟨1, "Add", "Client", 3, 100, 0⟩,
      responsePacket ⟨1, "Add", "Client", 3, 100, 0⟩⟩⟩ (by decide +kernel)
  have hany := (Option.any_eq_true (fun endpoint : RpcClientEndpointImpl =>
    endpoint.clientState.state ≠ .idle) _).mpr
      ⟨endpoint, hfind, decide_eq_true hbusy⟩
  clear hkeeps hfind
  revert hany
  decide +kernel

end Sample

end Rpc
end HakoPduRpc
