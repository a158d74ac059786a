import Mathlib.Algebra.Group.Nat.Defs
import HakoPduRpc.Pdu.Registry

/-!
# The documented packet layout

A registry with the layout that the protocol documents describe: twenty bytes of
metadata padded to twenty-four, then the base part, which starts with the common
header, then the heap.  Numbers are little-endian.  The size table stays a
parameter.

`layoutRegistry_lawful` shows that this layout has the properties that
`PduRegistry.Lawful` asks for, so the statements that assume them are not about
nothing.
-/

namespace HakoPduRpc

open HakoPduRpc.Action

namespace Layout

/-! ## Numbers -/

/-- The four little-endian bytes of a 32-bit number. -/
def encodeUInt32 (n : UInt32) : List UInt8 :=
  [n.toUInt8, (n >>> 8).toUInt8, (n >>> 16).toUInt8, (n >>> 24).toUInt8]

/-- The number of four little-endian bytes. -/
def decodeUInt32 : List UInt8 → UInt32
  | [a, b, c, d] =>
      UInt32.ofNat
        (a.toNat + 256 * (b.toNat + 256 * (c.toNat + 256 * d.toNat)))
  | _ => 0

theorem decodeUInt32_encodeUInt32 (n : UInt32) :
    decodeUInt32 (encodeUInt32 n) = n := by
  apply UInt32.toNat_inj.mp
  have hlt := n.toNat_lt
  simp only [encodeUInt32, decodeUInt32, UInt32.toNat_ofNat',
    UInt32.toNat_toUInt8, UInt32.toNat_shiftRight]
  rw [show UInt32.toNat 8 % 32 = 8 from rfl,
    show UInt32.toNat 16 % 32 = 16 from rfl,
    show UInt32.toNat 24 % 32 = 24 from rfl]
  simp only [Nat.shiftRight_eq_div_pow]
  omega

/-- Little-endian field at a byte offset. -/
def fieldAt (bytes : List UInt8) (offset : ℕ) : UInt32 :=
  decodeUInt32 ((bytes.drop offset).take 4)

/-! ## Metadata -/

def magicNo : UInt32 := 0x12345678
def layoutVersion : UInt32 := 1

/-- The metadata in front of a packet. -/
def encodeMetaData (heapOff totalSize : UInt32) : List UInt8 :=
  encodeUInt32 magicNo ++ encodeUInt32 layoutVersion ++ encodeUInt32 24 ++
    encodeUInt32 heapOff ++ encodeUInt32 totalSize ++ [0, 0, 0, 0]

def readMetaData (packet : PduData) : PduMetaData :=
  let bytes := packet.take 20
  { isInvalid :=
      fieldAt bytes 0 ≠ magicNo ∨ fieldAt bytes 4 ≠ layoutVersion
    baseOff := fieldAt bytes 8
    heapOff := fieldAt bytes 12
    totalSize := fieldAt bytes 16 }

/-- A packet without content. -/
def createEmptyPdu (baseSize : UInt32) (heapCapacity : UInt64) :
    Option PduData :=
  let align (n : ℕ) := (n + 7) / 8 * 8
  let heapOff := 24 + align baseSize.toNat
  let totalSize := heapOff + align heapCapacity.toNat
  some (encodeMetaData (UInt32.ofNat heapOff) (UInt32.ofNat totalSize) ++
    List.replicate (totalSize - 24) 0)

/-! ## Headers -/

/-- The bytes of a Goal ID, when there are sixteen. -/
def readGoalId (bytes : List UInt8) : Option GoalId :=
  if h : bytes.length = 16 then some ⟨bytes, h⟩ else none

/-- A header codec of a fixed size, at the start of the base part. -/
def fixedCodec {H : Type} (size : ℕ) (encode : H → List UInt8)
    (decode : List UInt8 → Option H) : HeaderCodec H where
  size := UInt64.ofNat size
  read packet := decode ((packet.drop 24).take size)
  write packet header :=
    some (packet.take 24 ++ encode header ++ packet.drop (24 + size))

def encodeRequest (h : ActionRequestHeader) : List UInt8 :=
  [h.version, h.requestKind, h.reserved.1, h.reserved.2] ++ h.goalId.bytes

def decodeRequest : List UInt8 → Option ActionRequestHeader
  | version :: kind :: r₁ :: r₂ :: rest =>
      (readGoalId rest).map fun g =>
        { version := version
          requestKind := kind
          reserved := (r₁, r₂)
          goalId := g }
  | _ => none

def encodeResponse (h : ActionResponseHeader) : List UInt8 :=
  [h.version, h.responseKind, h.status, h.reserved] ++ h.goalId.bytes

def decodeResponse : List UInt8 → Option ActionResponseHeader
  | version :: kind :: status :: reserved :: rest =>
      (readGoalId rest).map fun g =>
        { version := version
          responseKind := kind
          status := status
          reserved := reserved
          goalId := g }
  | _ => none

def encodeFeedback (h : ActionFeedbackHeader) : List UInt8 :=
  [h.version, h.reserved.1, h.reserved.2.1, h.reserved.2.2] ++
    h.goalId.bytes ++ encodeUInt32 h.sequenceNo

def decodeFeedback : List UInt8 → Option ActionFeedbackHeader
  | version :: r₁ :: r₂ :: r₃ :: rest =>
      (readGoalId (rest.take 16)).map fun g =>
        { version := version
          reserved := (r₁, r₂, r₃)
          goalId := g
          sequenceNo := decodeUInt32 (rest.drop 16) }
  | _ => none

end Layout

open Layout

/-- The registry with the documented layout and a given size table. -/
def layoutRegistry (sizes : String → Option UInt32) : PduRegistry where
  alignmentSize := 8
  metaDataSize := 24
  sizeofMetaData := 20
  readMetaData := readMetaData
  createEmptyPdu := createEmptyPdu
  pduGetSize := sizes
  requestHeader := fixedCodec 20 encodeRequest decodeRequest
  responseHeader := fixedCodec 20 encodeResponse decodeResponse
  feedbackHeader := fixedCodec 24 encodeFeedback decodeFeedback

namespace Layout

variable {sizes : String → Option UInt32}

@[simp] theorem readGoalId_bytes (g : GoalId) :
    readGoalId g.bytes = some g := by
  simp [readGoalId, g.length_bytes]

theorem length_of_validPrefix {p : PduData} {n : UInt64}
    (h : (layoutRegistry sizes).hasValidPacketPrefix p n = true) :
    24 + n.toNat ≤ p.length := by
  have harea := PduRegistry.headerArea_le_totalSize h
  obtain ⟨-, -, -, -, -, -, -, hsize⟩ :=
    PduRegistry.hasValidPacketPrefix_iff.mp h
  have hle := UInt64.le_iff_toNat_le.mp hsize
  rw [UInt32.toNat_toUInt64] at hle
  exact (harea.trans hle).trans (toNat_packetSize_le p)

/-- A codec that reads back what it encodes is lawful. -/
theorem lawful_fixedCodec {H : Type} {size : ℕ} {encode : H → List UInt8}
    {decode : List UInt8 → Option H} (hsize : size < 2 ^ 64)
    (hlength : ∀ h, (encode h).length = size)
    (hdecode : ∀ h, decode (encode h) = some h) :
    (layoutRegistry sizes).LawfulCodec (fixedCodec size encode decode) := by
  have htoNat : (UInt64.ofNat size).toNat = size := by
    rw [UInt64.toNat_ofNat']
    exact Nat.mod_eq_of_lt hsize
  have hroom : ∀ {p : PduData}, (layoutRegistry sizes).hasValidPacketPrefix p
      (fixedCodec size encode decode).size = true →
      24 + size ≤ p.length := by
    intro p hp
    have := length_of_validPrefix hp
    simpa [fixedCodec, htoNat] using this
  refine ⟨?_, ?_, ?_⟩
  · intro p q h hp hwrite
    have := hroom hp
    simp only [fixedCodec, Option.some.injEq] at hwrite
    subst hwrite
    simp only [List.length_append, List.length_take, List.length_drop,
      hlength]
    omega
  · intro p q h hp hwrite
    have := hroom hp
    simp only [fixedCodec, Option.some.injEq] at hwrite
    subst hwrite
    have hfront : (p.take 24 ++ encode h ++ p.drop (24 + size)).take 20 =
        p.take 20 := by
      rw [List.append_assoc, List.take_append_of_le_length (by simp; omega),
        List.take_take]
      rfl
    simp only [layoutRegistry, readMetaData, hfront]
  · intro p q h hp hwrite n hn
    have := hroom hp
    simp only [fixedCodec, Option.some.injEq] at hwrite
    subst hwrite
    have hn' : 24 + size ≤ n := by
      simpa [layoutRegistry, fixedCodec, htoNat] using hn
    have hheader : (((p.take 24 ++ encode h ++ p.drop (24 + size)).take
        n).drop 24).take size = encode h := by
      rw [List.drop_take, List.take_take, Nat.min_eq_left (by omega),
        List.append_assoc, List.drop_append_of_le_length (by simp; omega),
        List.drop_eq_nil_of_le (by simp), List.nil_append,
        List.take_append_of_le_length (by rw [hlength]),
        List.take_of_length_le (by rw [hlength])]
    simp only [fixedCodec, hheader, hdecode]

end Layout

/-- The documented layout has the properties that the endpoints rely on. -/
theorem layoutRegistry_lawful (sizes : String → Option UInt32) :
    (layoutRegistry sizes).Lawful where
  sizeof_le := by
    show (20 : UInt64) ≤ 24
    decide
  readMetaData_take := by
    intro p n hn
    have hn' : 20 ≤ n := hn
    simp only [layoutRegistry, readMetaData, List.take_take,
      Nat.min_eq_left hn']
  request := by
    refine lawful_fixedCodec (by decide) ?_ ?_
    · intro h
      simp [encodeRequest, h.goalId.length_bytes]
    · intro h
      simp [encodeRequest, decodeRequest]
  response := by
    refine lawful_fixedCodec (by decide) ?_ ?_
    · intro h
      simp [encodeResponse, h.goalId.length_bytes]
    · intro h
      simp [encodeResponse, decodeResponse]
  feedback := by
    refine lawful_fixedCodec (by decide) ?_ ?_
    · intro h
      simp [encodeFeedback, h.goalId.length_bytes, encodeUInt32]
    · intro h
      simp [encodeFeedback, decodeFeedback, h.goalId.length_bytes,
        decodeUInt32_encodeUInt32]

/-! ## A small instance -/

/-- The documented layout with room for exactly one header in every packet. -/
def sampleRegistry : PduRegistry := layoutRegistry fun _ => some 24

def sampleGoalId : GoalId := ⟨List.replicate 16 1, rfl⟩

/-- An empty packet of `sampleRegistry`. -/
def samplePacket : PduData := (sampleRegistry.createPacketBuffer 24 0).getD []

/-- A request packet of `sampleRegistry`. -/
def sampleRequest (requestKind : UInt8) : PduData :=
  (sampleRegistry.requestHeader.write samplePacket
    { version := 1
      requestKind := requestKind
      reserved := (0, 0)
      goalId := sampleGoalId }).getD []

end HakoPduRpc
