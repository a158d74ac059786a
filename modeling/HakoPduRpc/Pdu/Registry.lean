import HakoPduRpc.Action.Types

/-!
# The packet registry and the packet checks

The PDU registry (`hakoniwa-pdu-registry`) is a library outside this
repository.  `PduRegistry` lists what the Action endpoints use of it: the packet
metadata, the packet allocator, the size table and the converters of the three
common headers.  `PduRegistry.Lawful` lists what they rely on: a converter
writes its header inside the header area, leaves the metadata alone, and reads
back what it wrote.

On top of it stand the packet checks, which both endpoint implementations carry
in the same words, with `std::size_t` arithmetic on `UInt64`.  The result of
this module is `transmit`: what a send path hands to the transport passes the
checks of the receiving side and carries the header that was written.
-/

namespace HakoPduRpc

open HakoPduRpc.Action

/-! ## What is used of the registry -/

/-- `HakoPduMetaDataType`; `isInvalid` is `HAKO_PDU_METADATA_IS_INVALID`. -/
structure PduMetaData where
  isInvalid : Bool
  baseOff : UInt32
  heapOff : UInt32
  totalSize : UInt32
deriving DecidableEq, Repr

structure ActionRequestHeader where
  version : UInt8
  requestKind : UInt8
  reserved : UInt8 × UInt8 := (0, 0)
  goalId : GoalId
deriving DecidableEq

structure ActionResponseHeader where
  version : UInt8
  responseKind : UInt8
  status : UInt8
  reserved : UInt8 := 0
  goalId : GoalId
deriving DecidableEq

structure ActionFeedbackHeader where
  version : UInt8
  reserved : UInt8 × UInt8 × UInt8 := (0, 0, 0)
  goalId : GoalId
  sequenceNo : UInt32
deriving DecidableEq

/-- The generated converter of one common header: its C size, and the two
directions between a packet and the C++ value. -/
structure HeaderCodec (H : Type) where
  size : UInt64
  read : PduData → Option H
  write : PduData → H → Option PduData

/-- The functions of the PDU registry that the Action endpoints call. -/
structure PduRegistry where
  /-- `HAKO_ALIGNMENT_SIZE`. -/
  alignmentSize : UInt64
  /-- `HAKO_PDU_META_DATA_SIZE()`. -/
  metaDataSize : UInt64
  /-- `sizeof(HakoPduMetaDataType)`. -/
  sizeofMetaData : UInt64
  /-- The metadata copied out of the front of a packet. -/
  readMetaData : PduData → PduMetaData
  /-- `hako_create_empty_pdu`: the bytes of a fresh packet. -/
  createEmptyPdu : UInt32 → UInt64 → Option PduData
  /-- `hako_pdu_get_size`. -/
  pduGetSize : String → Option UInt32
  requestHeader : HeaderCodec ActionRequestHeader
  responseHeader : HeaderCodec ActionResponseHeader
  feedbackHeader : HeaderCodec ActionFeedbackHeader

/-- `packet.size()`. -/
def packetSize (packet : PduData) : UInt64 := UInt64.ofNat packet.length

/-- `std::numeric_limits<int>::max()`. -/
def intMax : UInt64 := 2147483647

namespace PduRegistry

variable (R : PduRegistry)

/-! ## The packet checks -/

/-- `aligned_size`. -/
def alignedSize (size : UInt64) : UInt64 :=
  (size + R.alignmentSize - 1) &&& ~~~(R.alignmentSize - 1)

/-- `supported_packet_capacity`. -/
def supportedPacketCapacity (baseSize : UInt32) (heapCapacity : UInt64) :
    Bool :=
  if baseSize.toUInt64 > intMax ∨ heapCapacity > intMax then false
  else
    let fixedSize := R.metaDataSize + R.alignedSize baseSize.toUInt64
    fixedSize ≤ intMax ∧ R.alignedSize heapCapacity ≤ intMax - fixedSize

/-- `has_valid_packet_prefix`. -/
def hasValidPacketPrefix (packet : PduData) (requiredBaseSize : UInt64) :
    Bool :=
  if packetSize packet < R.sizeofMetaData then false
  else
    let metadata := R.readMetaData packet
    ¬metadata.isInvalid ∧
      metadata.baseOff.toUInt64 = R.metaDataSize ∧
      metadata.baseOff.toUInt64 ≤ packetSize packet ∧
      requiredBaseSize ≤ packetSize packet - metadata.baseOff.toUInt64 ∧
      metadata.baseOff.toUInt64 + requiredBaseSize ≤
        metadata.heapOff.toUInt64 ∧
      metadata.heapOff ≤ metadata.totalSize ∧
      metadata.totalSize.toUInt64 ≤ packetSize packet

/-- `validate_packet_capacity`; the result is `wire_size_out`. -/
def validatePacketCapacity (packet : PduData) (baseSize : UInt32)
    (heapCapacity : UInt64) (requireExactBufferSize : Bool) : Option UInt64 :=
  if ¬R.hasValidPacketPrefix packet 0 then none
  else
    let metadata := R.readMetaData packet
    if ¬R.supportedPacketCapacity baseSize heapCapacity then none
    else if metadata.totalSize.toUInt64 > packetSize packet ∨
        (requireExactBufferSize = true ∧
          metadata.totalSize.toUInt64 ≠ packetSize packet) then none
    else if (metadata.totalSize - metadata.heapOff).toUInt64 >
        R.alignedSize heapCapacity then none
    else some metadata.totalSize.toUInt64

/-- `create_packet_buffer`. -/
def createPacketBuffer (baseSize : UInt32) (heapCapacity : UInt64) :
    Option PduData :=
  if baseSize = 0 ∨ ¬R.supportedPacketCapacity baseSize heapCapacity then none
  else R.createEmptyPdu baseSize heapCapacity

/-- The shape of `decode_request_header`, `decode_response_header` and
`decode_feedback_header`. -/
def decodeHeader {H : Type} (codec : HeaderCodec H) (packet : PduData) :
    Option H :=
  if R.hasValidPacketPrefix packet codec.size then codec.read packet else none

/-- The shape of `write_request_header`, `write_response_header` and
`write_feedback_header`. -/
def writeHeader {H : Type} (codec : HeaderCodec H) (packet : PduData)
    (header : H) : Option PduData :=
  if R.hasValidPacketPrefix packet codec.size then codec.write packet header
  else none

/-! ## What is relied on -/

/-- A converter writes inside the header area and reads back what it wrote. -/
structure LawfulCodec {H : Type} (codec : HeaderCodec H) : Prop where
  length_write : ∀ {p q h}, R.hasValidPacketPrefix p codec.size = true →
    codec.write p h = some q → q.length = p.length
  metaData_write : ∀ {p q h}, R.hasValidPacketPrefix p codec.size = true →
    codec.write p h = some q → R.readMetaData q = R.readMetaData p
  read_write : ∀ {p q h}, R.hasValidPacketPrefix p codec.size = true →
    codec.write p h = some q → ∀ n,
      R.metaDataSize.toNat + codec.size.toNat ≤ n →
      codec.read (q.take n) = some h

/-- The documented behaviour of the registry that the endpoints rely on. -/
structure Lawful : Prop where
  sizeof_le : R.sizeofMetaData ≤ R.metaDataSize
  readMetaData_take : ∀ p n, R.sizeofMetaData.toNat ≤ n →
    R.readMetaData (p.take n) = R.readMetaData p
  request : R.LawfulCodec R.requestHeader
  response : R.LawfulCodec R.responseHeader
  feedback : R.LawfulCodec R.feedbackHeader

end PduRegistry

theorem toNat_packetSize_le (p : PduData) :
    (packetSize p).toNat ≤ p.length := by
  simp only [packetSize, UInt64.toNat_ofNat']
  exact Nat.mod_le _ _

namespace PduRegistry

variable {R : PduRegistry}

/-- The prefix check, read as a conjunction. -/
theorem hasValidPacketPrefix_iff {p : PduData} {n : UInt64} :
    R.hasValidPacketPrefix p n = true ↔
      R.sizeofMetaData ≤ packetSize p ∧
      (R.readMetaData p).isInvalid = false ∧
      (R.readMetaData p).baseOff.toUInt64 = R.metaDataSize ∧
      (R.readMetaData p).baseOff.toUInt64 ≤ packetSize p ∧
      n ≤ packetSize p - (R.readMetaData p).baseOff.toUInt64 ∧
      (R.readMetaData p).baseOff.toUInt64 + n ≤
        (R.readMetaData p).heapOff.toUInt64 ∧
      (R.readMetaData p).heapOff ≤ (R.readMetaData p).totalSize ∧
      (R.readMetaData p).totalSize.toUInt64 ≤ packetSize p := by
  unfold hasValidPacketPrefix
  by_cases h : packetSize p < R.sizeofMetaData
  · simp [h, UInt64.not_le.mpr h]
  · simp [h, UInt64.not_lt.mp h]

/-- The capacity check, read as a conjunction. -/
theorem validatePacketCapacity_eq_some_iff {p : PduData} {b : UInt32}
    {h : UInt64} {exact : Bool} {w : UInt64} :
    R.validatePacketCapacity p b h exact = some w ↔
      R.hasValidPacketPrefix p 0 = true ∧
      R.supportedPacketCapacity b h = true ∧
      (exact = true → (R.readMetaData p).totalSize.toUInt64 = packetSize p) ∧
      ((R.readMetaData p).totalSize - (R.readMetaData p).heapOff).toUInt64 ≤
        R.alignedSize h ∧
      w = (R.readMetaData p).totalSize.toUInt64 := by
  unfold validatePacketCapacity
  by_cases hp : R.hasValidPacketPrefix p 0
  · have htotal := (hasValidPacketPrefix_iff.mp hp).2.2.2.2.2.2.2
    simp only [hp, not_true_eq_false, if_false, true_and, gt_iff_lt,
      UInt64.not_lt.mpr htotal, false_or]
    generalize ((R.readMetaData p).totalSize -
      (R.readMetaData p).heapOff).toUInt64 = heap
    by_cases hs : R.supportedPacketCapacity b h
    · simp only [hs, not_true_eq_false, if_false, true_and]
      split_ifs with he hheap
      · simp [he]
      · simp [UInt64.not_le.mpr hheap]
      · simp only [UInt64.not_lt.mp hheap]
        grind
    · simp [hs]
  · simp [hp]

/-! ## From sender to receiver -/

/-- A valid prefix leaves room for the header area before `totalSize`. -/
theorem headerArea_le_totalSize {p : PduData} {n : UInt64}
    (h : R.hasValidPacketPrefix p n = true) :
    R.metaDataSize.toNat + n.toNat ≤ (R.readMetaData p).totalSize.toNat := by
  obtain ⟨-, -, hbase, hle, hroom, hheap, htotal, -⟩ :=
    hasValidPacketPrefix_iff.mp h
  rw [hbase] at hle hroom hheap
  have hroom' : n.toNat ≤ (packetSize p).toNat - R.metaDataSize.toNat := by
    rw [← UInt64.toNat_sub_of_le _ _ hle]
    exact UInt64.le_iff_toNat_le.mp hroom
  have hsize := (packetSize p).toNat_lt
  have hle' := UInt64.le_iff_toNat_le.mp hle
  have hheap' := UInt64.le_iff_toNat_le.mp hheap
  rw [UInt64.toNat_add, Nat.mod_eq_of_lt (by omega),
    UInt32.toNat_toUInt64] at hheap'
  exact hheap'.trans (UInt32.le_iff_toNat_le.mp htotal)

/-- Cutting a packet at its `totalSize` keeps a valid prefix. -/
theorem hasValidPacketPrefix_take (hR : R.Lawful) {p : PduData} {n : UInt64}
    (h : R.hasValidPacketPrefix p n = true) :
    R.hasValidPacketPrefix
        (p.take (R.readMetaData p).totalSize.toNat) n = true ∧
      R.readMetaData (p.take (R.readMetaData p).totalSize.toNat) =
        R.readMetaData p ∧
      packetSize (p.take (R.readMetaData p).totalSize.toNat) =
        (R.readMetaData p).totalSize.toUInt64 := by
  have harea := headerArea_le_totalSize h
  have hsizeof := UInt64.le_iff_toNat_le.mp hR.sizeof_le
  obtain ⟨-, hvalid, hbase, -, -, hheap, htotal, hsize⟩ :=
    hasValidPacketPrefix_iff.mp h
  have hmeta := hR.readMetaData_take p (R.readMetaData p).totalSize.toNat
    (by omega)
  have hlen : (R.readMetaData p).totalSize.toNat ≤ p.length := by
    have := UInt64.le_iff_toNat_le.mp hsize
    rw [UInt32.toNat_toUInt64] at this
    exact this.trans (toNat_packetSize_le p)
  have hcut : packetSize (p.take (R.readMetaData p).totalSize.toNat) =
      (R.readMetaData p).totalSize.toUInt64 := by
    rw [packetSize, List.length_take, Nat.min_eq_left hlen]
    apply UInt64.toNat_inj.mp
    have := (R.readMetaData p).totalSize.toNat_lt
    rw [UInt64.toNat_ofNat', UInt32.toNat_toUInt64]
    exact Nat.mod_eq_of_lt (by omega)
  have htoNat : ((R.readMetaData p).totalSize.toUInt64).toNat =
      (R.readMetaData p).totalSize.toNat := UInt32.toNat_toUInt64 _
  have hroom : R.metaDataSize ≤ (R.readMetaData p).totalSize.toUInt64 :=
    UInt64.le_iff_toNat_le.mpr (by omega)
  refine ⟨hasValidPacketPrefix_iff.mpr ?_, hmeta, hcut⟩
  rw [hmeta, hcut, hbase]
  rw [hbase] at hheap
  refine ⟨UInt64.le_iff_toNat_le.mpr (by omega), hvalid, rfl, hroom, ?_,
    hheap, htotal, UInt64.le_refl _⟩
  rw [UInt64.le_iff_toNat_le, UInt64.toNat_sub_of_le _ _ hroom]
  omega

/-- What a send path hands to the transport passes the receiver's checks and
carries the header that was written. -/
theorem transmit (hR : R.Lawful) {H : Type} {codec : HeaderCodec H}
    (hcodec : R.LawfulCodec codec) {p q : PduData} {header : H} {b : UInt32}
    {heap w : UInt64}
    (hcheck : R.validatePacketCapacity p b heap false = some w)
    (hwrite : R.writeHeader codec p header = some q) :
    R.validatePacketCapacity (q.take w.toNat) b heap true = some w ∧
      R.decodeHeader codec (q.take w.toNat) = some header := by
  obtain ⟨hpre, hsupported, -, hheap, rfl⟩ :=
    validatePacketCapacity_eq_some_iff.mp hcheck
  unfold writeHeader at hwrite
  split at hwrite
  · next hroom =>
      have hmeta := hcodec.metaData_write hroom hwrite
      have hlen := hcodec.length_write hroom hwrite
      have hsize : packetSize q = packetSize p := by
        rw [packetSize, packetSize, hlen]
      have hq : ∀ n, R.hasValidPacketPrefix p n = true →
          R.hasValidPacketPrefix q n = true := by
        intro n hn
        rw [hasValidPacketPrefix_iff] at hn ⊢
        rw [hmeta, hsize]
        exact hn
      obtain ⟨hcut₀, hmeta₀, hsize₀⟩ :=
        hasValidPacketPrefix_take hR (hq 0 hpre)
      obtain ⟨hcut, -, -⟩ := hasValidPacketPrefix_take hR (hq _ hroom)
      have harea := headerArea_le_totalSize hroom
      rw [hmeta] at hcut₀ hmeta₀ hsize₀ hcut
      rw [UInt32.toNat_toUInt64]
      constructor
      · rw [validatePacketCapacity_eq_some_iff, hmeta₀, hsize₀]
        exact ⟨hcut₀, hsupported, fun _ => rfl, hheap, rfl⟩
      · rw [decodeHeader, if_pos hcut]
        exact hcodec.read_write hroom hwrite _ harea
  · simp at hwrite

end PduRegistry

end HakoPduRpc
