import HakoPduRpc.Pdu.Layout

/-!
# Packets from sender to receiver

`PduRegistry.Lawful` is about headers alone.  This module adds what is relied on
for the other bytes of a packet: a converter succeeds on a packet with a valid
prefix and writes nothing outside the header area, and the allocator lays a
fresh packet out by the sizes it was asked for.

`delivered_of_write` follows a packet from the sender's check to the receiver's
one, and `laidOut_accepted` shows that a fresh packet passes the sender's check.
The documented layout has all of these properties.
-/

namespace HakoPduRpc

open HakoPduRpc.Action

namespace PduRegistry

variable (R : PduRegistry)

/-! ## What is relied on -/

/-- A byte offset outside the area of a header. -/
def OutsideHeader {H : Type} (codec : HeaderCodec H) (i : ℕ) : Prop :=
  i < R.metaDataSize.toNat ∨ R.metaDataSize.toNat + codec.size.toNat ≤ i

/-- A converter writes its header whenever there is room for it, and nothing
else. -/
structure WritesHeaderOnly {H : Type} (codec : HeaderCodec H) : Prop where
  write_isSome : ∀ {p} (h : H), R.hasValidPacketPrefix p codec.size = true →
    (codec.write p h).isSome = true
  byte_eq : ∀ {p q h}, R.hasValidPacketPrefix p codec.size = true →
    codec.write p h = some q → ∀ i, R.OutsideHeader codec i → q[i]? = p[i]?

/-- A fresh packet: metadata, a base part and a heap of the given sizes. -/
structure LaidOut (baseSize : UInt32) (heapCapacity : UInt64)
    (p : PduData) : Prop where
  valid : (R.readMetaData p).isInvalid = false
  baseOff_eq : (R.readMetaData p).baseOff.toUInt64 = R.metaDataSize
  base_le : R.metaDataSize.toNat + baseSize.toNat ≤
    (R.readMetaData p).heapOff.toNat
  heapOff_le : (R.readMetaData p).heapOff ≤ (R.readMetaData p).totalSize
  heap_le : ((R.readMetaData p).totalSize -
    (R.readMetaData p).heapOff).toUInt64 ≤ R.alignedSize heapCapacity
  length_eq : p.length = (R.readMetaData p).totalSize.toNat

/-- The documented behaviour of the registry on whole packets. -/
structure LawfulPackets : Prop extends R.Lawful where
  requestOnly : R.WritesHeaderOnly R.requestHeader
  responseOnly : R.WritesHeaderOnly R.responseHeader
  feedbackOnly : R.WritesHeaderOnly R.feedbackHeader
  laidOut : ∀ {baseSize heapCapacity p}, baseSize ≠ 0 →
    R.supportedPacketCapacity baseSize heapCapacity = true →
    R.createEmptyPdu baseSize heapCapacity = some p →
    R.LaidOut baseSize heapCapacity p

/-! ## From the sender's check to the receiver's check -/

/-- The receiving side accepts `data`, reads `header` out of it, and finds in
the rest of it the bytes of the packet `p`. -/
structure Delivered {H : Type} (codec : HeaderCodec H) (baseSize : UInt32)
    (heapCapacity : UInt64) (header : H) (p data : PduData) : Prop where
  validated : R.validatePacketCapacity data baseSize heapCapacity true =
    some (packetSize data)
  decoded : R.decodeHeader codec data = some header
  metaData_eq : R.readMetaData data = R.readMetaData p
  length_eq : data.length = (R.readMetaData p).totalSize.toNat
  byte_eq : ∀ i < data.length, R.OutsideHeader codec i → data[i]? = p[i]?

variable {R}

theorem length_of_hasValidPacketPrefix {p : PduData} {n : UInt64}
    (h : R.hasValidPacketPrefix p n = true) :
    (R.readMetaData p).totalSize.toNat ≤ p.length := by
  obtain ⟨-, -, -, -, -, -, -, hsize⟩ := hasValidPacketPrefix_iff.mp h
  have hle := UInt64.le_iff_toNat_le.mp hsize
  rw [UInt32.toNat_toUInt64] at hle
  exact hle.trans (toNat_packetSize_le p)

/-- What a send path makes of an accepted packet is delivered. -/
theorem delivered_of_write (hR : R.Lawful) {H : Type} {codec : HeaderCodec H}
    (hcodec : R.LawfulCodec codec) (honly : R.WritesHeaderOnly codec)
    {p q : PduData} {header : H} {b : UInt32} {heap w : UInt64}
    (hcheck : R.validatePacketCapacity p b heap false = some w)
    (hwrite : R.writeHeader codec p header = some q) :
    R.Delivered codec b heap header p (q.take w.toNat) := by
  obtain ⟨hvalidated, hdecoded⟩ := transmit hR hcodec hcheck hwrite
  obtain ⟨hpre, -, -, -, rfl⟩ := validatePacketCapacity_eq_some_iff.mp hcheck
  unfold writeHeader at hwrite
  split_ifs at hwrite with hroom
  have hmeta := hcodec.metaData_write hroom hwrite
  have hlength := hcodec.length_write hroom hwrite
  have htotal := length_of_hasValidPacketPrefix hpre
  have harea := headerArea_le_totalSize hroom
  have hsizeof := UInt64.le_iff_toNat_le.mp hR.sizeof_le
  rw [UInt32.toNat_toUInt64] at hvalidated hdecoded ⊢
  have hcut : (q.take (R.readMetaData p).totalSize.toNat).length =
      (R.readMetaData p).totalSize.toNat := by
    rw [List.length_take, hlength]
    exact Nat.min_eq_left htotal
  refine ⟨?_, hdecoded, ?_, hcut, ?_⟩
  · obtain ⟨-, -, hexact, -, hsize⟩ :=
      validatePacketCapacity_eq_some_iff.mp hvalidated
    rw [hvalidated, hsize, hexact rfl]
  · rw [hR.readMetaData_take q _ (by omega), hmeta]
  · intro i hi hout
    rw [hcut] at hi
    rw [List.getElem?_take_of_lt hi]
    exact honly.byte_eq hroom hwrite i hout

/-! ## Fresh packets -/

theorem LaidOut.packetSize_eq {b : UInt32} {heap : UInt64} {p : PduData}
    (h : R.LaidOut b heap p) :
    packetSize p = (R.readMetaData p).totalSize.toUInt64 := by
  apply UInt64.toNat_inj.mp
  have := (R.readMetaData p).totalSize.toNat_lt
  rw [packetSize, h.length_eq, UInt64.toNat_ofNat', UInt32.toNat_toUInt64]
  exact Nat.mod_eq_of_lt (by omega)

/-- A fresh packet has room for everything that fits its base part. -/
theorem LaidOut.hasValidPacketPrefix (hR : R.Lawful) {b : UInt32}
    {heap : UInt64} {p : PduData} (h : R.LaidOut b heap p) {n : UInt64}
    (hn : n ≤ b.toUInt64) : R.hasValidPacketPrefix p n = true := by
  have hn' : n.toNat ≤ b.toNat := by
    have := UInt64.le_iff_toNat_le.mp hn
    rwa [UInt32.toNat_toUInt64] at this
  have hbase := h.base_le
  have hheap := UInt32.le_iff_toNat_le.mp h.heapOff_le
  have hlt := (R.readMetaData p).totalSize.toNat_lt
  have hsizeof := UInt64.le_iff_toNat_le.mp hR.sizeof_le
  have htotal : ((R.readMetaData p).totalSize.toUInt64).toNat =
      (R.readMetaData p).totalSize.toNat := UInt32.toNat_toUInt64 _
  have hroom : R.metaDataSize ≤ (R.readMetaData p).totalSize.toUInt64 :=
    UInt64.le_iff_toNat_le.mpr (by omega)
  rw [hasValidPacketPrefix_iff, h.packetSize_eq, h.baseOff_eq]
  refine ⟨UInt64.le_iff_toNat_le.mpr (by omega), h.valid, rfl, hroom, ?_, ?_,
    h.heapOff_le, UInt64.le_refl _⟩
  · rw [UInt64.le_iff_toNat_le, UInt64.toNat_sub_of_le _ _ hroom]
    omega
  · rw [UInt64.le_iff_toNat_le, UInt64.toNat_add, UInt32.toNat_toUInt64,
      Nat.mod_eq_of_lt (by omega)]
    omega

/-- A fresh packet is accepted, on every slot that has its heap capacity. -/
theorem laidOut_accepted (hR : R.Lawful) {H : Type} {codec : HeaderCodec H}
    (honly : R.WritesHeaderOnly codec) {b b' : UInt32} {heap : UInt64}
    {p : PduData} (h : R.LaidOut b heap p) (hsize : codec.size ≤ b.toUInt64)
    (hsupported : R.supportedPacketCapacity b' heap = true) (header : H) :
    ∃ w q, R.validatePacketCapacity p b' heap false = some w ∧
      R.writeHeader codec p header = some q := by
  have hzero : R.hasValidPacketPrefix p 0 = true :=
    h.hasValidPacketPrefix hR (by simp)
  have hroom := h.hasValidPacketPrefix hR hsize
  obtain ⟨q, hq⟩ := Option.isSome_iff_exists.mp (honly.write_isSome header hroom)
  refine ⟨(R.readMetaData p).totalSize.toUInt64, q, ?_, ?_⟩
  · rw [validatePacketCapacity_eq_some_iff]
    exact ⟨hzero, hsupported, by simp, h.heap_le, rfl⟩
  · rw [writeHeader, if_pos hroom, hq]

/-- `create_packet_buffer` returns fresh packets, none of them empty. -/
theorem laidOut_of_createPacketBuffer (hR : R.LawfulPackets) {b : UInt32}
    {heap : UInt64} {p : PduData}
    (h : R.createPacketBuffer b heap = some p) :
    R.LaidOut b heap p ∧ p ≠ [] := by
  unfold createPacketBuffer at h
  split_ifs at h with hrefused
  simp only [not_or, Bool.not_eq_true, Bool.not_eq_false] at hrefused
  have hlaid := hR.laidOut hrefused.1 hrefused.2 h
  refine ⟨hlaid, ?_⟩
  rintro rfl
  have hb : b.toNat ≠ 0 := fun hzero => hrefused.1 (UInt32.toNat_inj.mp hzero)
  have hbase := hlaid.base_le
  have hheap := UInt32.le_iff_toNat_le.mp hlaid.heapOff_le
  have hlength := hlaid.length_eq
  simp only [List.length_nil] at hlength
  omega

end PduRegistry

open Layout

/-- Clearing the bits below a power of two rounds down to a multiple of it. -/
theorem toNat_and_not_mask (x mask : UInt64) {k : ℕ}
    (hmask : mask.toNat = 2 ^ k - 1) :
    (x &&& ~~~mask).toNat = x.toNat / 2 ^ k * 2 ^ k := by
  have hlow : (x &&& mask).toNat = x.toNat % 2 ^ k := by
    rw [UInt64.toNat_and, hmask]
    exact Nat.and_two_pow_sub_one_eq_mod x.toNat k
  have hparts : (x &&& ~~~mask).toNat + (x &&& mask).toNat = x.toNat := by
    have hdisjoint : (x.toBitVec &&& ~~~mask.toBitVec) &&&
        (x.toBitVec &&& mask.toBitVec) = 0 := by
      ext i
      simp only [BitVec.getElem_and, BitVec.getElem_not]
      cases mask.toBitVec[i] <;> simp
    have hjoin : (x.toBitVec &&& ~~~mask.toBitVec) |||
        (x.toBitVec &&& mask.toBitVec) = x.toBitVec := by
      ext i
      simp only [BitVec.getElem_or, BitVec.getElem_and, BitVec.getElem_not]
      cases mask.toBitVec[i] <;> simp
    have hsum := BitVec.toNat_add_of_and_eq_zero hdisjoint
    rw [BitVec.add_eq_or_of_and_eq_zero _ _ hdisjoint, hjoin] at hsum
    exact hsum.symm
  have hdiv := Nat.div_add_mod x.toNat (2 ^ k)
  rw [Nat.mul_comm] at hdiv
  omega

namespace Layout

variable {sizes : String → Option UInt32}

/-! ## The documented layout -/

/-- `aligned_size` of a size that is not close to overflow. -/
theorem toNat_alignedSize (sizes : String → Option UInt32) {size : UInt64}
    (h : size ≤ intMax) :
    ((layoutRegistry sizes).alignedSize size).toNat =
      (size.toNat + 7) / 8 * 8 := by
  have hle : size.toNat ≤ 2147483647 := UInt64.le_iff_toNat_le.mp h
  have hsum : (size + 8 - 1).toNat = size.toNat + 7 := by
    have hadd : (size + 8).toNat = size.toNat + 8 := by
      rw [UInt64.toNat_add]
      exact Nat.mod_eq_of_lt (by simp; omega)
    rw [UInt64.toNat_sub_of_le _ _ (UInt64.le_iff_toNat_le.mpr (by
      rw [hadd]; simp)), hadd]
    rfl
  have hmask : (8 : UInt64) - 1 = 7 := rfl
  simp only [PduRegistry.alignedSize, layoutRegistry, hmask]
  rw [toNat_and_not_mask _ 7 (k := 3) rfl, hsum]
  rfl

/-- The sizes of a supported packet stay far below the range of `UInt32`. -/
theorem supported_bounds {b : UInt32} {heap : UInt64}
    (h : (layoutRegistry sizes).supportedPacketCapacity b heap = true) :
    heap ≤ intMax ∧
      24 + (b.toNat + 7) / 8 * 8 + (heap.toNat + 7) / 8 * 8 ≤ 2147483647 := by
  unfold PduRegistry.supportedPacketCapacity at h
  split_ifs at h with hlarge
  obtain ⟨hb, hheap⟩ := not_or.mp hlarge
  have hb' : b.toUInt64 ≤ intMax := UInt64.not_lt.mp hb
  have hheap' : heap ≤ intMax := UInt64.not_lt.mp hheap
  have hbase := toNat_alignedSize sizes hb'
  have hsize := toNat_alignedSize sizes hheap'
  rw [UInt32.toNat_toUInt64] at hbase
  have hlimit : b.toNat ≤ 2147483647 := by
    have := UInt64.le_iff_toNat_le.mp hb'
    rwa [UInt32.toNat_toUInt64] at this
  generalize (layoutRegistry sizes).alignedSize b.toUInt64 = base at h hbase
  generalize (layoutRegistry sizes).alignedSize heap = storage at h hsize
  have hmeta : (layoutRegistry sizes).metaDataSize = 24 := rfl
  simp only [hmeta, decide_eq_true_eq] at h
  obtain ⟨hfixed, hstorage⟩ := h
  have hsum : (24 + base).toNat = 24 + base.toNat := by
    rw [UInt64.toNat_add]
    exact Nat.mod_eq_of_lt (by simp; omega)
  have hfixed' := UInt64.le_iff_toNat_le.mp hfixed
  have hstorage' := UInt64.le_iff_toNat_le.mp hstorage
  rw [UInt64.toNat_sub_of_le _ _ hfixed] at hstorage'
  have hmax : intMax.toNat = 2147483647 := rfl
  exact ⟨hheap', by omega⟩

theorem length_encodeMetaData (heapOff totalSize : UInt32) :
    (encodeMetaData heapOff totalSize).length = 24 := rfl

theorem readMetaData_encodeMetaData (heapOff totalSize : UInt32)
    (rest : PduData) :
    readMetaData (encodeMetaData heapOff totalSize ++ rest) =
      { isInvalid := false
        baseOff := 24
        heapOff := heapOff
        totalSize := totalSize } := by
  have hmagic := decodeUInt32_encodeUInt32 magicNo
  have hversion := decodeUInt32_encodeUInt32 layoutVersion
  have hbase := decodeUInt32_encodeUInt32 24
  have hheap := decodeUInt32_encodeUInt32 heapOff
  have htotal := decodeUInt32_encodeUInt32 totalSize
  unfold encodeUInt32 at *
  simp [readMetaData, encodeMetaData, encodeUInt32, fieldAt, hmagic, hversion,
    hheap, htotal]
  exact hbase

/-- A fixed codec replaces exactly its own area. -/
theorem writesHeaderOnly_fixedCodec {H : Type} {size : ℕ}
    {encode : H → List UInt8} {decode : List UInt8 → Option H}
    (hsize : size < 2 ^ 64) (hlength : ∀ h, (encode h).length = size) :
    (layoutRegistry sizes).WritesHeaderOnly
      (fixedCodec size encode decode) where
  write_isSome := by
    intro p h hp
    rfl
  byte_eq := by
    intro p q h hp hwrite i hout
    have htoNat : (UInt64.ofNat size).toNat = size := by
      rw [UInt64.toNat_ofNat']
      exact Nat.mod_eq_of_lt hsize
    have hroom : 24 + size ≤ p.length := by
      have := length_of_validPrefix hp
      simpa [fixedCodec, htoNat] using this
    have hout' : i < 24 ∨ 24 + size ≤ i := by
      simpa [PduRegistry.OutsideHeader, layoutRegistry, fixedCodec, htoNat]
        using hout
    simp only [fixedCodec, Option.some.injEq] at hwrite
    subst hwrite
    rcases hout' with hlow | hhigh
    · rw [List.append_assoc, List.getElem?_append_left (by simp; omega),
        List.getElem?_take_of_lt hlow]
    · rw [List.getElem?_append_right (by simp [hlength]; omega),
        List.getElem?_drop]
      congr 1
      simp [hlength]
      omega

/-- The allocator of the documented layout. -/
theorem laidOut_createEmptyPdu {b : UInt32} {heap : UInt64} {p : PduData}
    (hsupported :
      (layoutRegistry sizes).supportedPacketCapacity b heap = true)
    (h : createEmptyPdu b heap = some p) :
    (layoutRegistry sizes).LaidOut b heap p := by
  obtain ⟨hheap, hbound⟩ := supported_bounds hsupported
  have haligned := toNat_alignedSize sizes hheap
  simp only [createEmptyPdu, Option.some.injEq] at h
  subst h
  generalize hbase : (b.toNat + 7) / 8 * 8 = base at *
  generalize hstorage : (heap.toNat + 7) / 8 * 8 = storage at *
  have hoff : (UInt32.ofNat (24 + base)).toNat = 24 + base := by
    rw [UInt32.toNat_ofNat']
    exact Nat.mod_eq_of_lt (by omega)
  have htotal : (UInt32.ofNat (24 + base + storage)).toNat =
      24 + base + storage := by
    rw [UInt32.toNat_ofNat']
    exact Nat.mod_eq_of_lt (by omega)
  have hread : (layoutRegistry sizes).readMetaData _ = _ :=
    readMetaData_encodeMetaData (UInt32.ofNat (24 + base))
      (UInt32.ofNat (24 + base + storage))
      (List.replicate (24 + base + storage - 24) 0)
  have hle : UInt32.ofNat (24 + base) ≤
      UInt32.ofNat (24 + base + storage) :=
    UInt32.le_iff_toNat_le.mpr (by omega)
  refine ⟨?_, ?_, ?_, ?_, ?_, ?_⟩
  · rw [hread]
  · rw [hread]
    rfl
  · rw [hread, hoff]
    show 24 + b.toNat ≤ _
    omega
  · rw [hread]
    exact hle
  · rw [hread, UInt64.le_iff_toNat_le, UInt32.toNat_toUInt64,
      UInt32.toNat_sub_of_le _ _ hle, haligned, htotal, hoff]
    omega
  · rw [hread, htotal, List.length_append, length_encodeMetaData,
      List.length_replicate]
    omega

end Layout

/-- The documented layout treats whole packets as the endpoints expect. -/
theorem layoutRegistry_lawfulPackets (sizes : String → Option UInt32) :
    (layoutRegistry sizes).LawfulPackets where
  toLawful := layoutRegistry_lawful sizes
  requestOnly := by
    apply writesHeaderOnly_fixedCodec (by decide)
    intro h
    simp [encodeRequest, h.goalId.length_bytes]
  responseOnly := by
    apply writesHeaderOnly_fixedCodec (by decide)
    intro h
    simp [encodeResponse, h.goalId.length_bytes]
  feedbackOnly := by
    apply writesHeaderOnly_fixedCodec (by decide)
    intro h
    simp [encodeFeedback, h.goalId.length_bytes, encodeUInt32]
  laidOut := by
    intro b heap p _ hsupported hcreate
    exact laidOut_createEmptyPdu hsupported hcreate

end HakoPduRpc
