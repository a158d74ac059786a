import HakoPduRpc.Rpc.ClientRequests

/-!
# The RPC client of several services

`RpcServicesClient` holds one endpoint for each service, keyed by the name of the
service.  `poll` asks the endpoints in the order of their names until one of
them reports something.
-/

namespace HakoPduRpc
namespace Rpc

/-- `RpcServicesClient`. -/
structure RpcServicesClient where
  rpcEndpoints : OrdMap String RpcClientEndpointImpl

namespace RpcServicesClient

variable (C : RpcConvertors)

/-- `initialize_services`, for the services that list this client on its
node. -/
def initializeServices (clientName : String) (services : List String) :
    RpcServicesClient :=
  ⟨services.foldl (fun endpoints service =>
    endpoints.assign service (.create service clientName)) .empty⟩

/-- The loop of `poll`; `now` is what the time source returns when the endpoint
of a service is polled, and the response of the caller is handed on from one
endpoint to the next. -/
def pollEndpoints (now : String → UInt64) :
    List (String × RpcClientEndpointImpl) → RpcResponse →
      List (String × RpcClientEndpointImpl) ×
        Option (String × ClientEventType) × RpcResponse
  | [], response => ([], none, response)
  | (name, endpoint) :: rest, response =>
      let polled := endpoint.poll C (now name) response
      if polled.2.1 ≠ .none then
        ((name, polled.1) :: rest, some (name, polled.2.1), polled.2.2)
      else
        let later := pollEndpoints now rest polled.2.2
        ((name, polled.1) :: later.1, later.2)

theorem map_fst_pollEndpoints (now : String → UInt64)
    (l : List (String × RpcClientEndpointImpl)) (response : RpcResponse) :
    (pollEndpoints C now l response).1.map Prod.fst = l.map Prod.fst := by
  induction l generalizing response with
  | nil => rfl
  | cons e rest ih =>
      obtain ⟨name, endpoint⟩ := e
      rw [pollEndpoints]
      dsimp only
      split_ifs
      · rfl
      · rw [List.map_cons, List.map_cons, ih]

variable (s : RpcServicesClient)

/-- `poll`; `none` is `ClientEventType::NONE`. -/
def poll (now : String → UInt64) (response : RpcResponse) :
    RpcServicesClient × Option (String × ClientEventType) × RpcResponse :=
  let polled := pollEndpoints C now s.rpcEndpoints.entries response
  (⟨s.rpcEndpoints.replaceValues polled.1
      (map_fst_pollEndpoints C now _ response)⟩, polled.2)

/-- The receive callback of one service stores a packet. -/
def receive (serviceName : String) (pdu : PduData) : RpcServicesClient :=
  ⟨s.rpcEndpoints.modify serviceName (·.putPendingResponse pdu)⟩

/-- `create_request_buffer`; `none` for an unknown service. -/
def createRequestBuffer (net : PduEndpoint) (serviceName : String) :
    RpcServicesClient × Option PduData :=
  match s.rpcEndpoints.find? serviceName with
  | none => (s, none)
  | some endpoint =>
      let created := endpoint.createRequestBuffer C net operationRequest false []
      (⟨s.rpcEndpoints.modify serviceName fun _ => created.1⟩, some created.2)

/-- `call`. -/
def call (net : PduEndpoint) (now : UInt64) (serviceName : String)
    (pdu : PduData) (timeoutUsec : UInt64) :
    Outcome RpcServicesClient Sent Bool :=
  match s.rpcEndpoints.find? serviceName with
  | none => { state := s, result := false }
  | some endpoint =>
      (endpoint.call net now pdu timeoutUsec).embed fun endpoint =>
        ⟨s.rpcEndpoints.modify serviceName fun _ => endpoint⟩

/-- `send_cancel_request`. -/
def sendCancelRequest (net : PduEndpoint) (serviceName : String) :
    Outcome RpcServicesClient Sent Bool :=
  match s.rpcEndpoints.find? serviceName with
  | none => { state := s, result := false }
  | some endpoint =>
      (endpoint.sendCancelRequest C net).embed fun endpoint =>
        ⟨s.rpcEndpoints.modify serviceName fun _ => endpoint⟩

end RpcServicesClient

end Rpc
end HakoPduRpc
