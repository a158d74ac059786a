import Mathlib.Data.String.Basic
import HakoPduRpc.Lib.OrdMap
import HakoPduRpc.Pdu.Outcome

/-!
# RPC values shared by client and server

The service headers, the codes of `rpc_types.hpp` and what the two RPC endpoints
use of code outside this repository: the generated header convertors, and
`hakoniwa::pdu::Endpoint`.
-/

namespace HakoPduRpc
namespace Rpc

/-! ## Codes -/

/-- `HAKO_SERVICE_OPERATION_CODE_REQUEST`. -/
def operationRequest : UInt8 := 0

/-- `HAKO_SERVICE_OPERATION_CODE_CANCEL`. -/
def operationCancel : UInt8 := 1

/-- `HAKO_SERVICE_OPERATION_NUM`. -/
def operationNum : UInt8 := 2

/-- `HAKO_SERVICE_STATUS_ERROR`. -/
def statusError : UInt8 := 4

/-- `HAKO_SERVICE_RESULT_CODE_ERROR`. -/
def resultError : Int32 := 1

/-- `HAKO_SERVICE_RESULT_CODE_CANCELED`. -/
def resultCanceled : Int32 := 2

/-- `HAKO_SERVICE_RESULT_CODE_INVALID`. -/
def resultInvalid : Int32 := 3

/-- `HAKO_SERVICE_RESULT_CODE_BUSY`. -/
def resultBusy : Int32 := 4

/-- `HAKO_SERVICE_RESULT_CODE_NUM`. -/
def resultNum : Int32 := 6

/-! ## Headers, requests and responses -/

/-- `HakoCpp_ServiceRequestHeader`. -/
structure ServiceRequestHeader where
  requestId : UInt32
  serviceName : String
  clientName : String
  opcode : UInt8
  statusPollIntervalMsec : UInt32
deriving DecidableEq

/-- `HakoCpp_ServiceResponseHeader`. -/
structure ServiceResponseHeader where
  requestId : UInt32
  serviceName : String
  clientName : String
  status : UInt8
  processingPercentage : UInt8
  resultCode : Int32
deriving DecidableEq

/-- `RpcRequest`. -/
structure RpcRequest where
  clientName : String
  header : ServiceRequestHeader
  pdu : PduData
deriving DecidableEq

/-- `RpcResponse`. -/
structure RpcResponse where
  header : ServiceResponseHeader
  pdu : PduData
deriving DecidableEq

inductive ServerEventType
  | none
  | requestIn
  | requestCancel
deriving DecidableEq, Repr

inductive ClientEventType
  | none
  | responseIn
  | responseCancel
  | responseTimeout
deriving DecidableEq, Repr

/-! ## What is used of the platform -/

/-- `hakoniwa::pdu::PduKey`: a robot name and the name of one of its PDUs. -/
structure PduKey where
  robot : String
  pdu : String
deriving DecidableEq, Repr

/-- `hako::pdu::PduConvertor`: `pdu2cpp` fills a header from a packet, and
`cpp2pdu` writes one into a buffer. -/
structure PduConvertor (H : Type) where
  pdu2cpp : PduData → H → H
  cpp2pdu : H → PduData → PduData

/-- The two convertors that an RPC endpoint holds. -/
structure RpcConvertors where
  request : PduConvertor ServiceRequestHeader
  response : PduConvertor ServiceResponseHeader

/-- What `hakoniwa::pdu::Endpoint` answers during one operation: whether `send`
returns `HAKO_PDU_ERR_OK`, the size of a PDU, and whether there is a PDU
definition. -/
structure PduEndpoint where
  send : PduKey → PduData → Bool
  getPduSize : PduKey → ℕ
  hasPduDefinition : Bool

/-- A packet handed to `Endpoint::send`, and whether it was taken. -/
structure Sent where
  key : PduKey
  data : PduData
  ok : Bool
deriving DecidableEq

/-- `PduData::resize`. -/
def resize (pdu : PduData) (size : ℕ) : PduData :=
  pdu.take size ++ List.replicate (size - pdu.length) 0

@[simp] theorem length_resize (pdu : PduData) (size : ℕ) :
    (resize pdu size).length = size := by
  simp only [resize, List.length_append, List.length_take,
    List.length_replicate]
  omega

/-- A convertor reads a header back from the buffer it was written into. -/
def PduConvertor.ReadsBack {H : Type} (c : PduConvertor H) (size : ℕ)
    (header : H) : Prop :=
  ∀ buffer old, buffer.length = size →
    c.pdu2cpp (c.cpp2pdu header buffer) old = header

/-- The packet carries the header, whatever the header read into held before. -/
def PduConvertor.Carries {H : Type} (c : PduConvertor H) (pdu : PduData)
    (header : H) : Prop :=
  ∀ old, c.pdu2cpp pdu old = header

end Rpc
end HakoPduRpc
