import HakoPduRpc.Pdu.Layout
import HakoPduRpc.Rpc.ServerEndpoint

/-!
# A layout of the service headers

Convertors with the shape that the generated ones have: behind twenty-four bytes
of metadata stands the header, with little-endian numbers and zero-terminated
texts in fields of fixed width.  A packet too short for a header leaves the
header as it was.

`requestConvertor_readsBack` and `responseConvertor_readsBack` show that headers
survive the way through a buffer, which is what the statements about the RPC
protocol ask of the convertors.
-/

namespace HakoPduRpc
namespace Rpc
namespace ServiceLayout

open HakoPduRpc.Layout

/-! ## Texts -/

/-- The width of a text field. -/
def textSize : ℕ := 128

/-- A text in a field of its own, padded with zeros. -/
def encodeText (text : String) : List UInt8 :=
  let bytes := (text.toList.map fun c => UInt8.ofNat c.toNat).take textSize
  bytes ++ List.replicate (textSize - bytes.length) 0

/-- The text before the first zero. -/
def decodeText (bytes : List UInt8) : String :=
  String.ofList ((bytes.takeWhile (· ≠ 0)).map fun b => Char.ofNat b.toNat)

/-- The text survives the way through its field. -/
def Representable (text : String) : Prop :=
  decodeText (encodeText text) = text

theorem length_encodeText (text : String) :
    (encodeText text).length = textSize := by
  simp only [encodeText, List.length_append, List.length_replicate,
    List.length_take]
  omega

/-! ## Headers at a fixed place -/

/-- The convertor of a header that takes `size` bytes behind the metadata. -/
def fixedConvertor {H : Type} (size : ℕ) (encode : H → List UInt8)
    (decode : List UInt8 → H) : PduConvertor H where
  pdu2cpp pdu old :=
    if pdu.length < 24 + size then old else decode ((pdu.drop 24).take size)
  cpp2pdu header pdu :=
    pdu.take 24 ++ encode header ++ pdu.drop (24 + size)

theorem fixedConvertor_readsBack {H : Type} {size total : ℕ}
    {encode : H → List UInt8} {decode : List UInt8 → H} {header : H}
    (htotal : 24 + size ≤ total) (hlength : (encode header).length = size)
    (hdecode : decode (encode header) = header) :
    (fixedConvertor size encode decode).ReadsBack total header := by
  intro buffer old hbuffer
  have hfront : (buffer.take 24).length = 24 := by
    rw [List.length_take]
    omega
  have hroom : ¬(buffer.take 24 ++ encode header ++
      buffer.drop (24 + size)).length < 24 + size := by
    simp only [List.length_append, hfront, hlength]
    omega
  simp only [fixedConvertor]
  rw [if_neg hroom, List.append_assoc, List.drop_append_of_le_length
    (le_of_eq hfront.symm), List.drop_eq_nil_of_le (le_of_eq hfront),
    List.nil_append, List.take_append_of_le_length (le_of_eq hlength.symm),
    List.take_of_length_le (le_of_eq hlength), hdecode]

/-- The field of a header at an offset. -/
def slice (bytes : List UInt8) (offset size : ℕ) : List UInt8 :=
  (bytes.drop offset).take size

theorem slice_append {a b c : List UInt8} {offset size : ℕ}
    (ha : a.length = offset) (hb : b.length = size) :
    slice (a ++ (b ++ c)) offset size = b := by
  rw [slice, List.drop_append_of_le_length (le_of_eq ha.symm),
    List.drop_eq_nil_of_le (le_of_eq ha), List.nil_append,
    List.take_append_of_le_length (le_of_eq hb.symm),
    List.take_of_length_le (le_of_eq hb)]

/-! ## The two service headers -/

def encodeRequestHeader (h : ServiceRequestHeader) : List UInt8 :=
  encodeUInt32 h.requestId ++ encodeText h.serviceName ++
    encodeText h.clientName ++ [h.opcode] ++
    encodeUInt32 h.statusPollIntervalMsec

def decodeRequestHeader (bytes : List UInt8) : ServiceRequestHeader where
  requestId := decodeUInt32 (slice bytes 0 4)
  serviceName := decodeText (slice bytes 4 textSize)
  clientName := decodeText (slice bytes 132 textSize)
  opcode := (slice bytes 260 1).headD 0
  statusPollIntervalMsec := decodeUInt32 (slice bytes 261 4)

def encodeResponseHeader (h : ServiceResponseHeader) : List UInt8 :=
  encodeUInt32 h.requestId ++ encodeText h.serviceName ++
    encodeText h.clientName ++ [h.status, h.processingPercentage] ++
    encodeUInt32 h.resultCode.toUInt32

def decodeResponseHeader (bytes : List UInt8) : ServiceResponseHeader where
  requestId := decodeUInt32 (slice bytes 0 4)
  serviceName := decodeText (slice bytes 4 textSize)
  clientName := decodeText (slice bytes 132 textSize)
  status := (slice bytes 260 1).headD 0
  processingPercentage := (slice bytes 261 1).headD 0
  resultCode := (decodeUInt32 (slice bytes 262 4)).toInt32

/-- The fields that the two headers share, in front of the others. -/
theorem slice_front (requestId : UInt32) (serviceName clientName : String)
    (rest : List UInt8) :
    let bytes := encodeUInt32 requestId ++ encodeText serviceName ++
      encodeText clientName ++ rest
    slice bytes 0 4 = encodeUInt32 requestId ∧
      slice bytes 4 textSize = encodeText serviceName ∧
      slice bytes 132 textSize = encodeText clientName ∧
      ∀ n size, slice bytes (260 + n) size = slice rest n size := by
  have hfront : (encodeUInt32 requestId ++ encodeText serviceName).length =
      132 := by
    rw [List.length_append, length_encodeText]
    rfl
  refine ⟨?_, ?_, ?_, ?_⟩
  · rw [List.append_assoc, List.append_assoc]
    exact slice_append (a := []) (b := encodeUInt32 requestId) rfl rfl
  · rw [List.append_assoc, List.append_assoc]
    exact slice_append rfl (length_encodeText serviceName)
  · rw [List.append_assoc]
    exact slice_append hfront (length_encodeText clientName)
  · intro n size
    have hlength : (encodeUInt32 requestId ++ encodeText serviceName ++
        encodeText clientName).length = 260 := by
      rw [List.length_append, hfront, length_encodeText]
      rfl
    rw [slice, ← hlength, List.drop_append, List.drop_eq_nil_of_le (by omega)]
    simp [slice]

theorem decodeRequestHeader_encode {h : ServiceRequestHeader}
    (hservice : Representable h.serviceName)
    (hclient : Representable h.clientName) :
    decodeRequestHeader (encodeRequestHeader h) = h := by
  have hbytes : encodeRequestHeader h = encodeUInt32 h.requestId ++
      encodeText h.serviceName ++ encodeText h.clientName ++
      (h.opcode :: encodeUInt32 h.statusPollIntervalMsec) := by
    simp [encodeRequestHeader]
  obtain ⟨hid, hname, hclientName, hrest⟩ := slice_front h.requestId
    h.serviceName h.clientName
    (h.opcode :: encodeUInt32 h.statusPollIntervalMsec)
  have hopcode := hrest 0 1
  have hinterval := hrest 1 4
  rw [← hbytes] at hid hname hclientName hopcode hinterval
  rw [decodeRequestHeader, hid, hname, hclientName, hopcode, hinterval,
    hservice, hclient, decodeUInt32_encodeUInt32]
  have htail : slice (h.opcode :: encodeUInt32 h.statusPollIntervalMsec) 1 4 =
      encodeUInt32 h.statusPollIntervalMsec := rfl
  rw [htail, decodeUInt32_encodeUInt32]
  rfl

theorem decodeResponseHeader_encode {h : ServiceResponseHeader}
    (hservice : Representable h.serviceName)
    (hclient : Representable h.clientName) :
    decodeResponseHeader (encodeResponseHeader h) = h := by
  have hbytes : encodeResponseHeader h = encodeUInt32 h.requestId ++
      encodeText h.serviceName ++ encodeText h.clientName ++
      (h.status :: h.processingPercentage ::
        encodeUInt32 h.resultCode.toUInt32) := by
    simp [encodeResponseHeader]
  obtain ⟨hid, hname, hclientName, hrest⟩ := slice_front h.requestId
    h.serviceName h.clientName
    (h.status :: h.processingPercentage :: encodeUInt32 h.resultCode.toUInt32)
  have hstatus := hrest 0 1
  have hpercentage := hrest 1 1
  have hcode := hrest 2 4
  rw [← hbytes] at hid hname hclientName hstatus hpercentage hcode
  rw [decodeResponseHeader, hid, hname, hclientName, hstatus, hpercentage,
    hcode, hservice, hclient, decodeUInt32_encodeUInt32]
  have htail : slice (h.status :: h.processingPercentage ::
      encodeUInt32 h.resultCode.toUInt32) 2 4 =
        encodeUInt32 h.resultCode.toUInt32 := rfl
  rw [htail, decodeUInt32_encodeUInt32, Int32.toInt32_toUInt32]
  rfl

/-- The convertors of this layout. -/
def layoutConvertors : RpcConvertors where
  request := fixedConvertor 265 encodeRequestHeader decodeRequestHeader
  response := fixedConvertor 266 encodeResponseHeader decodeResponseHeader

theorem requestConvertor_readsBack {size : ℕ} (hsize : 289 ≤ size)
    {h : ServiceRequestHeader} (hservice : Representable h.serviceName)
    (hclient : Representable h.clientName) :
    layoutConvertors.request.ReadsBack size h := by
  refine fixedConvertor_readsBack hsize ?_
    (decodeRequestHeader_encode hservice hclient)
  simp [encodeRequestHeader, length_encodeText, encodeUInt32, textSize]

theorem responseConvertor_readsBack {size : ℕ} (hsize : 290 ≤ size)
    {h : ServiceResponseHeader} (hservice : Representable h.serviceName)
    (hclient : Representable h.clientName) :
    layoutConvertors.response.ReadsBack size h := by
  refine fixedConvertor_readsBack hsize ?_
    (decodeResponseHeader_encode hservice hclient)
  simp [encodeResponseHeader, length_encodeText, encodeUInt32, textSize]

/-! ## A small instance -/

/-- An endpoint on which every send succeeds. -/
def sampleNet : PduEndpoint where
  send _ _ := true
  getPduSize _ := 300
  hasPduDefinition := true

/-- The request packet of a client `"Client"` for the service `"Add"`. -/
def servicePacket (requestId : UInt32) (opcode : UInt8) : PduData :=
  layoutConvertors.request.cpp2pdu
    { requestId := requestId
      serviceName := "Add"
      clientName := "Client"
      opcode := opcode
      statusPollIntervalMsec := 0 }
    (List.replicate 300 0)

/-- A response packet with this header. -/
def responsePacket (header : ServiceResponseHeader) : PduData :=
  layoutConvertors.response.cpp2pdu header (List.replicate 300 0)

/-- A request as `RpcRequest request;` leaves it. -/
def emptyRequest : RpcRequest where
  clientName := ""
  header := ⟨0, "", "", 0, 0⟩
  pdu := []

/-- A service with one client. -/
def serviceConfig : ServiceConfig where
  maxClients := 1
  dynamicClient := false
  clients := [⟨"Client", "node"⟩]

end ServiceLayout
end Rpc
end HakoPduRpc
