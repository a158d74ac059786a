import HakoPduRpc.Action.PacketRoundTrip

/-!
# The arithmetic of the packet checks

The packet checks compute with `std::size_t` and `std::uint32_t`.  The checked
versions below evaluate the same expressions in the same order, and stop with
`none` where a subtraction would underflow or an addition would overflow.  They
never stop: whatever the packet says of itself, the guards in front of an
operation make it exact.  So the checks mean what their inequalities say about
integers.
-/

namespace HakoPduRpc

open HakoPduRpc.Action

/-! ## Checked operations -/

namespace Checked

/-- `a + b`, unless it overflows. -/
def add (a b : UInt64) : Option UInt64 :=
  if a.toNat + b.toNat < 18446744073709551616 then some (a + b) else none

/-- `a - b`, unless it underflows. -/
def sub (a b : UInt64) : Option UInt64 := if b ≤ a then some (a - b) else none

/-- `a - b` of 32 bits, unless it underflows. -/
def sub32 (a b : UInt32) : Option UInt32 :=
  if b ≤ a then some (a - b) else none

theorem add_eq {a b : UInt64}
    (h : a.toNat + b.toNat < 18446744073709551616) : add a b = some (a + b) :=
  if_pos h

theorem sub_eq {a b : UInt64} (h : b ≤ a) : sub a b = some (a - b) := if_pos h

theorem sub32_eq {a b : UInt32} (h : b ≤ a) : sub32 a b = some (a - b) :=
  if_pos h

theorem toNat_add {a b : UInt64}
    (h : a.toNat + b.toNat < 18446744073709551616) :
    (a + b).toNat = a.toNat + b.toNat := by
  rw [UInt64.toNat_add]
  exact Nat.mod_eq_of_lt h

end Checked

/-- The size rounded up to a multiple of the alignment. -/
def roundUp (alignment size : ℕ) : ℕ :=
  (size + alignment - 1) / alignment * alignment

namespace PduRegistry

/-- What is assumed of the constants of the registry: the alignment is a power
of two, and the metadata size is a 32-bit number, as `base_off` is. -/
structure WordSized (R : PduRegistry) : Prop where
  alignment : ∃ k, R.alignmentSize.toNat = 2 ^ k
  metaDataSize : R.metaDataSize.toNat < 4294967296

variable (R : PduRegistry)

/-! ## The checks with checked operations -/

/-- `aligned_size`. -/
def checkedAlignedSize (size : UInt64) : Option UInt64 := do
  let sum ← Checked.add size R.alignmentSize
  let upper ← Checked.sub sum 1
  let mask ← Checked.sub R.alignmentSize 1
  some (upper &&& ~~~mask)

/-- `supported_packet_capacity`. -/
def checkedSupportedPacketCapacity (baseSize : UInt32)
    (heapCapacity : UInt64) : Option Bool :=
  if baseSize.toUInt64 > intMax ∨ heapCapacity > intMax then some false
  else do
    let alignedBase ← R.checkedAlignedSize baseSize.toUInt64
    let fixedSize ← Checked.add R.metaDataSize alignedBase
    if fixedSize ≤ intMax then do
      let alignedHeap ← R.checkedAlignedSize heapCapacity
      let room ← Checked.sub intMax fixedSize
      some (alignedHeap ≤ room)
    else some false

/-- `has_valid_packet_prefix` and `valid_packet_prefix`; the conjunction is
evaluated from left to right. -/
def checkedHasValidPacketPrefix (packet : PduData)
    (requiredBaseSize : UInt64) : Option Bool :=
  if packetSize packet < R.sizeofMetaData then some false
  else
    let metadata := R.readMetaData packet
    if metadata.isInvalid then some false
    else if metadata.baseOff.toUInt64 ≠ R.metaDataSize then some false
    else if ¬metadata.baseOff.toUInt64 ≤ packetSize packet then some false
    else do
      let room ← Checked.sub (packetSize packet) metadata.baseOff.toUInt64
      if ¬requiredBaseSize ≤ room then some false
      else do
        let baseEnd ← Checked.add metadata.baseOff.toUInt64 requiredBaseSize
        some (baseEnd ≤ metadata.heapOff.toUInt64 ∧
          metadata.heapOff ≤ metadata.totalSize ∧
          metadata.totalSize.toUInt64 ≤ packetSize packet)

/-- `validate_packet_capacity` of the server. -/
def checkedValidatePacketCapacity (packet : PduData) (baseSize : UInt32)
    (heapCapacity : UInt64) (requireExactBufferSize : Bool) :
    Option (Option UInt64) := do
  let valid ← R.checkedHasValidPacketPrefix packet 0
  if ¬valid then some none
  else do
    let metadata := R.readMetaData packet
    let supported ← R.checkedSupportedPacketCapacity baseSize heapCapacity
    if ¬supported then some none
    else do
      let alignedHeap ← R.checkedAlignedSize heapCapacity
      if metadata.totalSize.toUInt64 > packetSize packet ∨
          (requireExactBufferSize = true ∧
            metadata.totalSize.toUInt64 ≠ packetSize packet) then some none
      else do
        let heapStorage ← Checked.sub32 metadata.totalSize metadata.heapOff
        if heapStorage.toUInt64 > alignedHeap then some none
        else some (some metadata.totalSize.toUInt64)

/-- `validate_packet_capacity` of the client. -/
def checkedClientValidatePacketCapacity (packet : PduData)
    (baseSize : UInt32) (heapCapacity : UInt64)
    (requireExactBufferSize : Bool) : Option (Option UInt64) := do
  let valid ← R.checkedHasValidPacketPrefix packet 0
  if ¬valid then some none
  else do
    let supported ← R.checkedSupportedPacketCapacity baseSize heapCapacity
    if ¬supported then some none
    else do
      let metadata := R.readMetaData packet
      let alignedHeap ← R.checkedAlignedSize heapCapacity
      if metadata.totalSize.toUInt64 > packetSize packet ∨
          (requireExactBufferSize = true ∧
            metadata.totalSize.toUInt64 ≠ packetSize packet) then some none
      else do
        let heapStorage ← Checked.sub32 metadata.totalSize metadata.heapOff
        if heapStorage.toUInt64 > alignedHeap then some none
        else some (some metadata.totalSize.toUInt64)

/-- What `create_packet_buffer` passes to `hako_create_empty_pdu`, when it gets
that far: both sizes cast to `int`. -/
def emptyPduArguments (baseSize : UInt32) (heapCapacity : UInt64) :
    Option (Int32 × Int32) :=
  if baseSize = 0 ∨ baseSize.toUInt64 > intMax ∨
      ¬R.supportedPacketCapacity baseSize heapCapacity then none
  else some (baseSize.toInt32, heapCapacity.toUInt32.toInt32)

/-! ## Sizes -/

variable {R}

theorem WordSized.one_le_alignment (hR : R.WordSized) :
    1 ≤ R.alignmentSize.toNat := by
  obtain ⟨k, hk⟩ := hR.alignment
  rw [hk]
  exact Nat.one_le_two_pow

/-- A power of two that is a 64-bit number is at most half of the range. -/
theorem WordSized.alignment_le (hR : R.WordSized) :
    R.alignmentSize.toNat ≤ 9223372036854775808 := by
  obtain ⟨k, hk⟩ := hR.alignment
  have hlt := R.alignmentSize.toNat_lt
  rw [hk] at hlt ⊢
  have hk' : k < 64 := (Nat.pow_lt_pow_iff_right (by decide)).mp hlt
  exact (Nat.pow_le_pow_iff_right (by decide)).mpr (show k ≤ 63 by omega)

/-- `aligned_size` of a size up to `INT_MAX` is exact. -/
theorem WordSized.alignedSize (hR : R.WordSized) {size : UInt64}
    (h : size ≤ intMax) :
    R.checkedAlignedSize size = some (R.alignedSize size) ∧
      (R.alignedSize size).toNat =
        roundUp R.alignmentSize.toNat size.toNat := by
  obtain ⟨k, hk⟩ := hR.alignment
  have hone := hR.one_le_alignment
  have hsize : size.toNat ≤ 2147483647 := UInt64.le_iff_toNat_le.mp h
  have hhalf := hR.alignment_le
  have hsum : size.toNat + R.alignmentSize.toNat < 18446744073709551616 := by
    omega
  have hadd := Checked.toNat_add hsum
  have hone' : (1 : UInt64) ≤ size + R.alignmentSize := by
    rw [UInt64.le_iff_toNat_le, hadd]
    exact hone.trans (Nat.le_add_left _ _)
  have hmask : (1 : UInt64) ≤ R.alignmentSize :=
    UInt64.le_iff_toNat_le.mpr hone
  constructor
  · simp [checkedAlignedSize, Checked.add_eq hsum, Checked.sub_eq hone',
      Checked.sub_eq hmask, PduRegistry.alignedSize]
  · have hbits : (R.alignmentSize - 1).toNat = 2 ^ k - 1 := by
      rw [UInt64.toNat_sub_of_le _ _ hmask, hk]
      rfl
    rw [PduRegistry.alignedSize, toNat_and_not_mask _ _ hbits,
      UInt64.toNat_sub_of_le _ _ hone', hadd, roundUp, hk]
    rfl

theorem roundUp_lt {alignment : ℕ} (h : 1 ≤ alignment) (size : ℕ) :
    roundUp alignment size < size + alignment := by
  have := Nat.div_mul_le_self (size + alignment - 1) alignment
  simp only [roundUp]
  omega

/-- `supported_packet_capacity` compares the exact sum with `INT_MAX`. -/
theorem WordSized.supportedPacketCapacity (hR : R.WordSized) (b : UInt32)
    (heap : UInt64) :
    R.checkedSupportedPacketCapacity b heap =
        some (R.supportedPacketCapacity b heap) ∧
      (R.supportedPacketCapacity b heap = true ↔
        b.toNat ≤ 2147483647 ∧ heap.toNat ≤ 2147483647 ∧
          R.metaDataSize.toNat + roundUp R.alignmentSize.toNat b.toNat +
            roundUp R.alignmentSize.toNat heap.toNat ≤ 2147483647) := by
  have hb : b.toUInt64 ≤ intMax ↔ b.toNat ≤ 2147483647 := by
    rw [UInt64.le_iff_toNat_le, UInt32.toNat_toUInt64]
    rfl
  have hheap : heap ≤ intMax ↔ heap.toNat ≤ 2147483647 :=
    UInt64.le_iff_toNat_le
  unfold checkedSupportedPacketCapacity PduRegistry.supportedPacketCapacity
  by_cases hlarge : b.toUInt64 > intMax ∨ heap > intMax
  · simp only [if_pos hlarge]
    refine ⟨trivial, ?_⟩
    rw [gt_iff_lt, gt_iff_lt, ← UInt64.not_le, ← UInt64.not_le, hb,
      hheap] at hlarge
    simp only [Bool.false_eq_true, false_iff]
    omega
  obtain ⟨hb', hheap'⟩ := not_or.mp hlarge
  have hbase := hR.alignedSize (UInt64.not_lt.mp hb')
  have hstorage := hR.alignedSize (UInt64.not_lt.mp hheap')
  rw [UInt32.toNat_toUInt64] at hbase
  have hblt := hb.mp (UInt64.not_lt.mp hb')
  have hhlt := hheap.mp (UInt64.not_lt.mp hheap')
  have hmeta := hR.metaDataSize
  have hhalf := hR.alignment_le
  have hround := roundUp_lt hR.one_le_alignment b.toNat
  generalize R.alignedSize b.toUInt64 = base at hbase
  generalize R.alignedSize heap = storage at hstorage
  obtain ⟨hcheckedBase, hbase⟩ := hbase
  obtain ⟨hcheckedStorage, hstorage⟩ := hstorage
  have hsum : R.metaDataSize.toNat + base.toNat < 18446744073709551616 := by
    omega
  have hfixed := Checked.toNat_add hsum
  have hmax : intMax.toNat = 2147483647 := rfl
  simp only [if_neg hlarge, hcheckedBase, hcheckedStorage,
    Checked.add_eq hsum, Option.bind_eq_bind, Option.bind_some]
  by_cases hroom : R.metaDataSize + base ≤ intMax
  · have hroom' := UInt64.le_iff_toNat_le.mp hroom
    simp only [Checked.sub_eq hroom, Option.bind_some, hroom, if_true,
      true_and, decide_eq_true_eq]
    have hlast : storage ≤ intMax - (R.metaDataSize + base) ↔
        storage.toNat ≤ intMax.toNat - (R.metaDataSize + base).toNat := by
      rw [UInt64.le_iff_toNat_le, UInt64.toNat_sub_of_le _ _ hroom]
    rw [hlast]
    omega
  · have hroom' := mt UInt64.le_iff_toNat_le.mpr hroom
    simp only [hroom, false_and, decide_false, if_false, true_and,
      Bool.false_eq_true, false_iff]
    omega

/-! ## Packets -/

/-- The regions of a packet in their order, as integers, with room for a header
of the given size in front of the heap. -/
structure InOrder (R : PduRegistry) (p : PduData) (headerSize : ℕ) :
    Prop where
  base : (R.readMetaData p).baseOff.toNat = R.metaDataSize.toNat
  header : (R.readMetaData p).baseOff.toNat + headerSize ≤
    (R.readMetaData p).heapOff.toNat
  heap : (R.readMetaData p).heapOff.toNat ≤ (R.readMetaData p).totalSize.toNat
  total : (R.readMetaData p).totalSize.toNat ≤ (packetSize p).toNat

/-- The operations of the prefix check are exact on every packet. -/
theorem checkedHasValidPacketPrefix_eq (p : PduData) (n : UInt64) :
    R.checkedHasValidPacketPrefix p n = some (R.hasValidPacketPrefix p n) := by
  unfold checkedHasValidPacketPrefix hasValidPacketPrefix
  by_cases hsize : packetSize p < R.sizeofMetaData
  · simp [hsize]
  by_cases hinvalid : (R.readMetaData p).isInvalid
  · simp [hsize, hinvalid]
  by_cases hbase : (R.readMetaData p).baseOff.toUInt64 = R.metaDataSize
  swap
  · simp [hsize, hinvalid, hbase]
  by_cases hle : (R.readMetaData p).baseOff.toUInt64 ≤ packetSize p
  swap
  · simp [hsize, hinvalid, hbase, hbase ▸ hle]
  by_cases hroom : n ≤ packetSize p - (R.readMetaData p).baseOff.toUInt64
  swap
  · simp [hsize, hinvalid, hbase, hbase ▸ hle, hbase ▸ hroom,
      Checked.sub_eq (hbase ▸ hle)]
  have hsum : (R.readMetaData p).baseOff.toUInt64.toNat + n.toNat <
      18446744073709551616 := by
    have hlt := (packetSize p).toNat_lt
    have hle' := UInt64.le_iff_toNat_le.mp hle
    have hroom' := UInt64.le_iff_toNat_le.mp hroom
    rw [UInt64.toNat_sub_of_le _ _ hle] at hroom'
    omega
  simp only [hsize, hinvalid, hbase, if_false]
  rw [hbase] at hle hroom hsum
  simp [hle, hroom, Checked.sub_eq hle, Checked.add_eq hsum]

theorem InOrder.of_validPrefix {p : PduData} {n : UInt64}
    (h : R.hasValidPacketPrefix p n = true) : R.InOrder p n.toNat := by
  obtain ⟨-, -, hbase, hle, hroom, hheap, htotal, hsize⟩ :=
    hasValidPacketPrefix_iff.mp h
  have hbase' := congrArg UInt64.toNat hbase
  have hle' := UInt64.le_iff_toNat_le.mp hle
  have hroom' := UInt64.le_iff_toNat_le.mp hroom
  have hheap' := UInt64.le_iff_toNat_le.mp hheap
  have htotal' := UInt32.le_iff_toNat_le.mp htotal
  have hsize' := UInt64.le_iff_toNat_le.mp hsize
  rw [UInt64.toNat_sub_of_le _ _ hle] at hroom'
  have hlt := (packetSize p).toNat_lt
  rw [Checked.toNat_add (by omega)] at hheap'
  simp only [UInt32.toNat_toUInt64] at hbase' hle' hroom' hheap' hsize'
  exact ⟨hbase', hheap', htotal', hsize'⟩

/-- What the capacity check says about a packet it accepts. -/
theorem accepted_packet {p : PduData} {b : UInt32} {heap w : UInt64}
    {exact : Bool} (h : R.validatePacketCapacity p b heap exact = some w) :
    R.InOrder p 0 ∧ w.toNat = (R.readMetaData p).totalSize.toNat ∧
      (exact = true →
        (R.readMetaData p).totalSize.toNat = (packetSize p).toNat) ∧
      (R.readMetaData p).totalSize.toNat - (R.readMetaData p).heapOff.toNat ≤
        (R.alignedSize heap).toNat := by
  obtain ⟨hpre, -, hexact, hheap, rfl⟩ :=
    validatePacketCapacity_eq_some_iff.mp h
  have horder : R.InOrder p 0 := InOrder.of_validPrefix hpre
  refine ⟨horder, UInt32.toNat_toUInt64 _, ?_, ?_⟩
  · intro he
    rw [← hexact he, UInt32.toNat_toUInt64]
  · have hsub := UInt32.toNat_sub_of_le _ _
      (UInt32.le_iff_toNat_le.mpr horder.heap)
    rw [← hsub, ← UInt32.toNat_toUInt64]
    exact UInt64.le_iff_toNat_le.mp hheap

/-- The operations of both capacity checks are exact on every packet. -/
theorem WordSized.validatePacketCapacity (hR : R.WordSized) (p : PduData)
    (b : UInt32) (heap : UInt64) (exact : Bool) :
    R.checkedValidatePacketCapacity p b heap exact =
        some (R.validatePacketCapacity p b heap exact) ∧
      R.checkedClientValidatePacketCapacity p b heap exact =
        some (clientValidatePacketCapacity R p b heap exact) := by
  obtain ⟨hchecked, hsupported⟩ := hR.supportedPacketCapacity b heap
  rw [clientValidatePacketCapacity_eq]
  unfold checkedValidatePacketCapacity checkedClientValidatePacketCapacity
    PduRegistry.validatePacketCapacity
  rw [checkedHasValidPacketPrefix_eq, hchecked]
  by_cases hpre : R.hasValidPacketPrefix p 0 = true
  swap
  · simp [hpre]
  by_cases hs : R.supportedPacketCapacity b heap = true
  swap
  · simp [hpre, hs]
  have hheap : heap ≤ intMax :=
    UInt64.le_iff_toNat_le.mpr (hsupported.mp hs).2.1
  have hsub : (R.readMetaData p).heapOff ≤ (R.readMetaData p).totalSize :=
    UInt32.le_iff_toNat_le.mpr (InOrder.of_validPrefix hpre).heap
  simp only [hpre, hs, (hR.alignedSize hheap).1, Checked.sub32_eq hsub,
    Option.bind_eq_bind, Option.bind_some, not_true_eq_false, if_false]
  split_ifs <;> simp

/-- The cast to `int` keeps a number up to `INT_MAX`. -/
theorem toInt_toInt32 {n : UInt32} (h : n.toNat ≤ 2147483647) :
    n.toInt32.toInt = n.toNat := by
  have hlt : 2 * n.toBitVec.toNat < 2 ^ 32 := by
    rw [UInt32.toNat_toBitVec]
    omega
  exact BitVec.toInt_eq_toNat_of_lt hlt

/-- `hako_create_empty_pdu` receives the sizes themselves, and their packet
fits into an `int`. -/
theorem WordSized.emptyPduArguments (hR : R.WordSized) {b : UInt32}
    {heap : UInt64} {x y : Int32}
    (h : R.emptyPduArguments b heap = some (x, y)) :
    x.toInt = b.toNat ∧ y.toInt = heap.toNat ∧
      R.metaDataSize.toNat + roundUp R.alignmentSize.toNat b.toNat +
        roundUp R.alignmentSize.toNat heap.toNat ≤ 2147483647 := by
  unfold PduRegistry.emptyPduArguments at h
  split_ifs at h with hbad
  obtain ⟨-, -, hs⟩ := not_or.mp hbad |>.imp_right not_or.mp
  obtain ⟨hb, hheap, hfit⟩ :=
    (hR.supportedPacketCapacity b heap).2.mp (not_not.mp hs)
  simp only [Option.some.injEq, Prod.mk.injEq] at h
  obtain ⟨rfl, rfl⟩ := h
  have hcast : heap.toUInt32.toNat = heap.toNat := by
    rw [UInt64.toNat_toUInt32]
    exact Nat.mod_eq_of_lt (by omega)
  refine ⟨toInt_toInt32 hb, ?_, hfit⟩
  rw [toInt_toInt32 (by omega), hcast]

theorem createPacketBuffer_eq (b : UInt32) (heap : UInt64) :
    R.createPacketBuffer b heap =
      (R.emptyPduArguments b heap).bind fun _ => R.createEmptyPdu b heap := by
  unfold PduRegistry.createPacketBuffer PduRegistry.emptyPduArguments
  by_cases hlarge : b.toUInt64 > intMax
  · have hs : R.supportedPacketCapacity b heap = false := by
      simp [PduRegistry.supportedPacketCapacity, hlarge]
    simp [hs]
  · simp only [hlarge, false_or]
    split_ifs <;> rfl

/-- The packet checks compute exactly: no operation on any evaluation path
overflows or underflows, an accepted packet has its regions in order and a heap
within the limit, and a supported capacity is one whose packet fits into an
`int`. -/
theorem packet_arithmetic_exact (hR : R.WordSized) :
    (∀ p n,
      R.checkedHasValidPacketPrefix p n =
          some (R.hasValidPacketPrefix p n) ∧
        (R.hasValidPacketPrefix p n = true → R.InOrder p n.toNat)) ∧
    (∀ p b heap exact,
      R.checkedValidatePacketCapacity p b heap exact =
          some (R.validatePacketCapacity p b heap exact) ∧
        R.checkedClientValidatePacketCapacity p b heap exact =
          some (clientValidatePacketCapacity R p b heap exact) ∧
        ∀ w, R.validatePacketCapacity p b heap exact = some w ∨
            clientValidatePacketCapacity R p b heap exact = some w →
          R.InOrder p 0 ∧
          w.toNat = (R.readMetaData p).totalSize.toNat ∧
          (exact = true →
            (R.readMetaData p).totalSize.toNat = (packetSize p).toNat) ∧
          (R.readMetaData p).totalSize.toNat -
              (R.readMetaData p).heapOff.toNat ≤
            roundUp R.alignmentSize.toNat heap.toNat) ∧
    ∀ b heap,
      R.checkedSupportedPacketCapacity b heap =
          some (R.supportedPacketCapacity b heap) ∧
        (R.supportedPacketCapacity b heap = true ↔
          b.toNat ≤ 2147483647 ∧ heap.toNat ≤ 2147483647 ∧
            R.metaDataSize.toNat + roundUp R.alignmentSize.toNat b.toNat +
              roundUp R.alignmentSize.toNat heap.toNat ≤ 2147483647) ∧
        R.createPacketBuffer b heap =
          ((R.emptyPduArguments b heap).bind fun _ =>
            R.createEmptyPdu b heap) ∧
        ∀ x y, R.emptyPduArguments b heap = some (x, y) →
          x.toInt = b.toNat ∧ y.toInt = heap.toNat ∧
            R.metaDataSize.toNat + roundUp R.alignmentSize.toNat b.toNat +
              roundUp R.alignmentSize.toNat heap.toNat ≤ 2147483647 := by
  refine ⟨?_, ?_, ?_⟩
  · intro p n
    exact ⟨checkedHasValidPacketPrefix_eq p n, InOrder.of_validPrefix⟩
  · intro p b heap exact
    obtain ⟨hserver, hclient⟩ := hR.validatePacketCapacity p b heap exact
    refine ⟨hserver, hclient, ?_⟩
    intro w hw
    rw [clientValidatePacketCapacity_eq, or_self] at hw
    obtain ⟨horder, hwire, hexact, hheap⟩ := accepted_packet hw
    refine ⟨horder, hwire, hexact, ?_⟩
    have hs := (validatePacketCapacity_eq_some_iff.mp hw).2.1
    have hlimit : heap ≤ intMax := UInt64.le_iff_toNat_le.mpr
      ((hR.supportedPacketCapacity b heap).2.mp hs).2.1
    rw [← (hR.alignedSize hlimit).2]
    exact hheap
  · intro b heap
    obtain ⟨hchecked, hiff⟩ := hR.supportedPacketCapacity b heap
    exact ⟨hchecked, hiff, createPacketBuffer_eq b heap,
      fun x y hxy => hR.emptyPduArguments hxy⟩

theorem sampleRegistry_wordSized : sampleRegistry.WordSized :=
  ⟨⟨3, rfl⟩, by decide⟩

/-- The documented layout meets the assumptions, and its largest supported heap
is found without overflow. -/
theorem packet_arithmetic_exact_sample :
    sampleRegistry.WordSized ∧
      (sampleRegistry.supportedPacketCapacity 24 2147483592 = true ↔
        (24 : UInt32).toNat ≤ 2147483647 ∧
          (2147483592 : UInt64).toNat ≤ 2147483647 ∧
          sampleRegistry.metaDataSize.toNat +
              roundUp sampleRegistry.alignmentSize.toNat (24 : UInt32).toNat +
              roundUp sampleRegistry.alignmentSize.toNat
                (2147483592 : UInt64).toNat ≤ 2147483647) ∧
      sampleRegistry.supportedPacketCapacity 24 2147483592 = true :=
  ⟨sampleRegistry_wordSized,
    ((packet_arithmetic_exact sampleRegistry_wordSized).2.2 24
      2147483592).2.1, by decide +kernel⟩

/-! ## The configured limit -/

/-- The heap of an accepted packet stays within its limit, so the packet stays
within the configured capacity if its base part does. -/
theorem accepted_wire_size {p : PduData} {b : UInt32} {heap w : UInt64}
    {exact : Bool}
    (h : R.validatePacketCapacity p b heap exact = some w ∨
      clientValidatePacketCapacity R p b heap exact = some w) :
    w.toNat ≤
        (R.readMetaData p).heapOff.toNat + (R.alignedSize heap).toNat ∧
      ((R.readMetaData p).heapOff.toNat ≤
          R.metaDataSize.toNat + (R.alignedSize b.toUInt64).toNat →
        w.toNat ≤ R.metaDataSize.toNat +
          (R.alignedSize b.toUInt64).toNat + (R.alignedSize heap).toNat) := by
  rw [clientValidatePacketCapacity_eq, or_self] at h
  obtain ⟨horder, hwire, -, hheap⟩ := accepted_packet h
  have hle := horder.heap
  omega

theorem accepted_wire_size_sample :
    (48 : UInt64).toNat ≤ sampleRegistry.metaDataSize.toNat +
      (sampleRegistry.alignedSize (24 : UInt32).toUInt64).toNat +
      (sampleRegistry.alignedSize 0).toNat :=
  (@accepted_wire_size sampleRegistry samplePacket 24 0 48 true
    (.inl (by decide +kernel))).2 (by decide +kernel)

/-- A packet of 56 bytes that says that its heap starts at its end. -/
def paddedPacket : PduData :=
  Layout.encodeMetaData 56 56 ++ List.replicate 32 0

/-- The checks of both sides accept the padded packet on a channel whose largest
packet has 48 bytes: nothing compares the base part with the configured one. -/
theorem paddedPacket_exceeds_capacity :
    sampleRegistry.supportedPacketCapacity 24 0 = true ∧
      sampleRegistry.validatePacketCapacity paddedPacket 24 0 true =
        some 56 ∧
      clientValidatePacketCapacity sampleRegistry paddedPacket 24 0 true =
        some 56 ∧
      ¬(56 : UInt64).toNat ≤ sampleRegistry.metaDataSize.toNat +
        (sampleRegistry.alignedSize (24 : UInt32).toUInt64).toNat +
        (sampleRegistry.alignedSize 0).toNat := by
  decide +kernel

end PduRegistry

end HakoPduRpc
