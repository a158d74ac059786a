import HakoPduRpc.Rpc.ClientEndpoint
import HakoPduRpc.Rpc.ServerEndpoint

/-!
# Truncated packets

A header convertor gets a pointer to the first byte of a packet and reads the
metadata and the header at fixed offsets behind it.  For a packet that is too
short it reads what lies behind the packet in memory.  The Action endpoints
compare the size of a packet with these offsets first; the two RPC endpoints do
not.

Here a decode names the memory behind the packets, and a step decodes a packet if
what the convertors make of that packet matters to the step.  An RPC endpoint
meets the contract in a step exactly if the packets at the front of its queue,
which are the ones that it decodes, are long enough.
-/

namespace HakoPduRpc
namespace Rpc

/-! ## Reading from memory -/

/-- The bytes in memory behind each packet. -/
abbrev Memory := PduData → ℕ → UInt8

/-- The byte at an offset from the start of a packet. -/
def byteAt (m : Memory) (pdu : PduData) (offset : ℕ) : UInt8 :=
  pdu.getD offset (m pdu offset)

/-- The offsets that a convertor reads. -/
def readOffsets (size : ℕ) : List ℕ := List.range size

/-- What a convertor reads. -/
def readBytes (m : Memory) (pdu : PduData) (size : ℕ) : List UInt8 :=
  (readOffsets size).map (byteAt m pdu)

/-- All bytes that a convertor reads belong to the packet. -/
def ReadsInside (size : ℕ) (pdu : PduData) : Prop :=
  ∀ offset ∈ readOffsets size, offset < pdu.length

theorem readsInside_iff {size : ℕ} {pdu : PduData} :
    ReadsInside size pdu ↔ size ≤ pdu.length := by
  simp only [ReadsInside, readOffsets, List.mem_range]
  constructor
  · intro h
    by_contra hlt
    exact absurd (h pdu.length (by omega)) (lt_irrefl _)
  · intro h offset hoffset
    omega

theorem readBytes_eq {size : ℕ} {pdu : PduData} (h : size ≤ pdu.length)
    (m m' : Memory) : readBytes m pdu size = readBytes m' pdu size := by
  refine List.map_congr_left fun offset hoffset => ?_
  have hlt : offset < pdu.length := readsInside_iff.mpr h offset hoffset
  simp [byteAt, List.getD_eq_getElem?_getD, List.getElem?_eq_getElem hlt]

/-- The generated convertors: the number of bytes that each of them reads, the
metadata and the header, and what it makes of them. -/
structure RawConvertors where
  requestSize : ℕ
  responseSize : ℕ
  readRequest : List UInt8 → ServiceRequestHeader → ServiceRequestHeader
  readResponse : List UInt8 → ServiceResponseHeader → ServiceResponseHeader
  writeRequest : ServiceRequestHeader → PduData → PduData
  writeResponse : ServiceResponseHeader → PduData → PduData

/-- The convertors over a memory. -/
def RawConvertors.over (K : RawConvertors) (m : Memory) : RpcConvertors where
  request :=
    { pdu2cpp := fun pdu => K.readRequest (readBytes m pdu K.requestSize)
      cpp2pdu := K.writeRequest }
  response :=
    { pdu2cpp := fun pdu => K.readResponse (readBytes m pdu K.responseSize)
      cpp2pdu := K.writeResponse }

/-- The convertors, but for what they make of one packet. -/
def RpcConvertors.misread (C : RpcConvertors) (pdu : PduData)
    (request : ServiceRequestHeader) (response : ServiceResponseHeader) :
    RpcConvertors where
  request :=
    { C.request with
      pdu2cpp := fun pdu' header =>
        if pdu' = pdu then request else C.request.pdu2cpp pdu' header }
  response :=
    { C.response with
      pdu2cpp := fun pdu' header =>
        if pdu' = pdu then response else C.response.pdu2cpp pdu' header }

variable {K : RawConvertors} {C : RpcConvertors}

/-! ## The server -/

namespace RpcServerEndpointImpl

variable {s : RpcServerEndpointImpl}

/-- The endpoint in memory; every input comes with the memory of its step. -/
def memoryMachine (K : RawConvertors) :
    Machine RpcServerEndpointImpl (Memory × Input) Obs where
  step s i := (machine (K.over i.1)).step s i.2

/-- A step decodes a packet: what the convertors make of it matters. -/
def Decodes (C : RpcConvertors) (s : RpcServerEndpointImpl) (i : Input)
    (pdu : PduData) : Prop :=
  ∃ request response,
    (machine (C.misread pdu request response)).step s i ≠ (machine C).step s i

/-- What is expected of a step: headers are read from the packets alone, and a
packet that is too short is discarded without any other effect. -/
structure Guarded (K : RawConvertors) (s : RpcServerEndpointImpl)
    (i : Memory × Input) : Prop where
  inside : ∀ pdu, Decodes (K.over i.1) s i.2 pdu →
    ReadsInside K.requestSize pdu
  independent : ∀ m,
    (memoryMachine K).step s (m, i.2) = (memoryMachine K).step s i
  discards : ∀ net request, i.2 = .poll net request → ∀ pdu rest,
    s.pendingRequests = pdu :: rest → pdu.length < K.requestSize →
    (s.poll (K.over i.1) net request).result.1 = .none ∧
      (s.poll (K.over i.1) net request).state =
        { s with pendingRequests := rest }

/-- When the step is a `poll`, the first packet in the queue holds the metadata
and the header. -/
def LongEnough (K : RawConvertors) (s : RpcServerEndpointImpl) :
    Memory × Input → Prop
  | (_, .poll _ _) => ∀ pdu ∈ s.pendingRequests.head?, K.requestSize ≤ pdu.length
  | _ => True

/-- A `poll` decodes the first packet in the queue. -/
theorem decodes_head {pdu : PduData} {rest : List PduData}
    (hqueue : s.pendingRequests = pdu :: rest) (net : PduEndpoint)
    (request : RpcRequest) : Decodes C s (.poll net request) pdu := by
  -- a header with another request id
  have hother : ∃ header : ServiceRequestHeader,
      header ≠ C.request.pdu2cpp pdu request.header := by
    refine ⟨{ C.request.pdu2cpp pdu request.header with
      requestId := (C.request.pdu2cpp pdu request.header).requestId + 1 }, ?_⟩
    intro h
    have hid := congrArg ServiceRequestHeader.requestId h
    simp at hid
  obtain ⟨header, hheader⟩ := hother
  refine ⟨header, RpcClientEndpointImpl.blankHeader, fun h => hheader ?_⟩
  have hobs := congrArg List.getLast? (congrArg Prod.snd h)
  simp only [machine, List.getLast?_append, List.getLast?_singleton,
    Option.some_or, Option.some.injEq, Obs.polled.injEq] at hobs
  have hread := congrArg RpcRequest.header hobs.2
  rw [poll_cons hqueue, poll_cons hqueue, dispatch_header,
    dispatch_header] at hread
  simpa [RpcConvertors.misread] using hread

/-- Nothing else is decoded. -/
theorem Decodes.head {i : Input} {pdu : PduData} (h : Decodes C s i pdu) :
    ∃ net request rest, i = .poll net request ∧
      s.pendingRequests = pdu :: rest := by
  obtain ⟨header, response, hne⟩ := h
  cases i with
  | receive pdu => exact absurd rfl hne
  | sendReply net clientName pdu => exact absurd rfl hne
  | sendCancelReply net clientName pdu => exact absurd rfl hne
  | clearPendingRequests => exact absurd rfl hne
  | poll net request =>
      refine ⟨net, request, ?_⟩
      cases hqueue : s.pendingRequests with
      | nil =>
          refine absurd ?_ hne
          simp only [machine, poll_nil hqueue]
      | cons pdu' rest =>
          by_cases hpdu : pdu' = pdu
          · exact ⟨rest, rfl, by rw [hpdu]⟩
          · refine absurd ?_ hne
            simp only [machine, poll_cons hqueue, RpcConvertors.misread,
              if_neg hpdu]
            rfl

/-- Apart from the request header, nothing is read from memory. -/
theorem dispatch_over (m m' : Memory) (net : PduEndpoint)
    (s : RpcServerEndpointImpl) (request : RpcRequest) :
    dispatch (K.over m) net s request = dispatch (K.over m') net s request :=
  rfl

theorem guarded_iff {i : Memory × Input} :
    Guarded K s i ↔ LongEnough K s i := by
  obtain ⟨m, i⟩ := i
  constructor
  · intro h
    cases i with
    | receive pdu => trivial
    | sendReply net clientName pdu => trivial
    | sendCancelReply net clientName pdu => trivial
    | clearPendingRequests => trivial
    | poll net request =>
        intro pdu hpdu
        obtain ⟨rest, hqueue⟩ := List.head?_eq_some_iff.mp hpdu
        exact readsInside_iff.mp
          (h.inside pdu (decodes_head hqueue net request))
  · intro h
    refine ⟨fun pdu hpdu => ?_, ?_, ?_⟩
    · obtain ⟨net, request, rest, rfl, hqueue⟩ := hpdu.head
      exact readsInside_iff.mpr (h pdu (by simp [hqueue]))
    · intro m'
      cases i with
      | receive pdu => rfl
      | sendReply net clientName pdu => rfl
      | sendCancelReply net clientName pdu => rfl
      | clearPendingRequests => rfl
      | poll net request =>
          have hpoll : s.poll (K.over m') net request =
              s.poll (K.over m) net request := by
            cases hqueue : s.pendingRequests with
            | nil => rw [poll_nil hqueue, poll_nil hqueue]
            | cons pdu rest =>
                have hlong : K.requestSize ≤ pdu.length :=
                  h pdu (by simp [hqueue])
                rw [poll_cons hqueue, poll_cons hqueue, dispatch_over m' m]
                simp only [RawConvertors.over, readBytes_eq hlong m' m]
          simp only [memoryMachine, machine, hpoll]
    · rintro net request rfl pdu rest hqueue hshort
      have hlong : K.requestSize ≤ pdu.length := h pdu (by simp [hqueue])
      omega

end RpcServerEndpointImpl

/-! ## The client -/

/-- A search in a list depends on the items up to the first hit. -/
theorem search_congr {α : Type} {p q : α → Bool} {l : List α}
    (h : ∀ x ∈ l.take (l.findIdx p + 1), p x = q x) :
    l.find? p = l.find? q ∧ l.eraseP p = l.eraseP q := by
  induction l with
  | nil => exact ⟨rfl, rfl⟩
  | cons a l ih =>
      have hfirst : p a = q a := h a (by simp)
      cases hp : p a with
      | true =>
          rw [hp] at hfirst
          simp [hp, ← hfirst]
      | false =>
          rw [hp] at hfirst
          have hrest : ∀ x ∈ l.take (l.findIdx p + 1), p x = q x := by
            intro x hx
            refine h x ?_
            rw [List.findIdx_cons, hp]
            exact List.mem_cons_of_mem _ hx
          obtain ⟨hfind, herase⟩ := ih hrest
          simp [hp, ← hfirst, hfind, herase]

theorem mem_take_of_find? {α : Type} {p : α → Bool} {l : List α} {a : α}
    (h : l.find? p = some a) : a ∈ l.take (l.findIdx p + 1) := by
  induction l with
  | nil => simp at h
  | cons b l ih =>
      cases hp : p b with
      | true =>
          rw [List.find?_cons_of_pos hp, Option.some.injEq] at h
          simp [h]
      | false =>
          rw [List.find?_cons_of_neg (by simp [hp])] at h
          rw [List.findIdx_cons, hp]
          exact List.mem_cons_of_mem _ (ih h)

/-- A search that only comes across items with a property. -/
theorem search_filter {α : Type} {p q : α → Bool} {l : List α}
    (h : ∀ x ∈ l.take (l.findIdx p + 1), q x = true) :
    (l.filter q).find? p = l.find? p ∧
      (l.filter q).eraseP p = (l.eraseP p).filter q := by
  induction l with
  | nil => exact ⟨rfl, rfl⟩
  | cons a l ih =>
      have hfirst : q a = true := h a (by simp)
      rw [List.filter_cons_of_pos hfirst]
      cases hp : p a with
      | true => simp [hp]
      | false =>
          have hrest : ∀ x ∈ l.take (l.findIdx p + 1), q x = true := by
            intro x hx
            refine h x ?_
            rw [List.findIdx_cons, hp]
            exact List.mem_cons_of_mem _ hx
          obtain ⟨hfind, herase⟩ := ih hrest
          simp [hp, hfirst, hfind, herase]

/-- An item that is come across is the first hit, or no hit. -/
theorem find?_eq_some_or_neg {α : Type} {p : α → Bool} {l : List α} {a : α}
    (h : a ∈ l.take (l.findIdx p + 1)) :
    l.find? p = some a ∨ p a = false := by
  induction l with
  | nil => cases h
  | cons b l ih =>
      cases hp : p b with
      | true =>
          rw [List.findIdx_cons, hp] at h
          left
          simpa [hp] using (List.mem_singleton.mp h).symm
      | false =>
          rw [List.findIdx_cons, hp] at h
          rcases List.mem_cons.mp h with rfl | h
          · exact Or.inr hp
          · simpa [hp] using ih h

/-- When also an item counts as a hit that a search comes across, the search
ends with it. -/
theorem find?_of_mem_take {α : Type} {p p' : α → Bool} {l : List α} {a : α}
    (h : a ∈ l.take (l.findIdx p + 1)) (ha' : p' a = true)
    (hother : ∀ x, x ≠ a → p' x = p x) : l.find? p' = some a := by
  induction l with
  | nil => cases h
  | cons b l ih =>
      by_cases heq : b = a
      · rw [heq, List.find?_cons_of_pos ha']
      · cases hp : p b with
        | true =>
            rw [List.findIdx_cons, hp] at h
            exact absurd (List.mem_singleton.mp h).symm heq
        | false =>
            rw [List.findIdx_cons, hp] at h
            have hmem := (List.mem_cons.mp h).resolve_left fun hab => heq hab.symm
            rw [List.find?_cons_of_neg (by simp [hother b heq, hp])]
            exact ih hmem

namespace RpcClientEndpointImpl

open ServiceLayout

variable {s : RpcClientEndpointImpl}

/-- The endpoint in memory; every input comes with the memory of its step. -/
def memoryMachine (K : RawConvertors) :
    Machine RpcClientEndpointImpl (Memory × Input) Obs where
  step s i := (machine (K.over i.1)).step s i.2

/-- A step decodes a packet: what the convertors make of it matters. -/
def Decodes (C : RpcConvertors) (s : RpcClientEndpointImpl) (i : Input)
    (pdu : PduData) : Prop :=
  ∃ request response,
    (machine (C.misread pdu request response)).step s i ≠ (machine C).step s i

/-- The client as if it had never received the packets that are too short. -/
def withoutShort (size : ℕ) (s : RpcClientEndpointImpl) : RpcClientEndpointImpl :=
  { s with
    pendingResponses :=
      s.pendingResponses.filter fun pdu => size ≤ pdu.length }

/-- What is expected of a step: headers are read from the packets alone, and a
`poll` ignores the packets that are too short. -/
structure Guarded (K : RawConvertors) (s : RpcClientEndpointImpl)
    (i : Memory × Input) : Prop where
  inside : ∀ pdu, Decodes (K.over i.1) s i.2 pdu →
    ReadsInside K.responseSize pdu
  independent : ∀ m,
    (memoryMachine K).step s (m, i.2) = (memoryMachine K).step s i
  ignores : ∀ now response, i.2 = .poll now response →
    let o := s.poll (K.over i.1) now response
    let o' := (s.withoutShort K.responseSize).poll (K.over i.1) now response
    o.2 = o'.2 ∧ o.1.withoutShort K.responseSize = o'.1

/-- The waiting responses that `poll` comes across: none if it does not get to
them, else those up to the first one with the request id in flight. -/
def searched (C : RpcConvertors) (s : RpcClientEndpointImpl) (now : UInt64) :
    List PduData :=
  if s.clientState.state = .idle ∨ s.timedOut now = true then []
  else s.pendingResponses.take
    (s.pendingResponses.findIdx (s.matchesRequest C) + 1)

/-- When the step is a `poll`, the responses that it comes across hold the
metadata and the header. -/
def LongEnough (K : RawConvertors) (s : RpcClientEndpointImpl) :
    Memory × Input → Prop
  | (m, .poll now _) =>
      ∀ pdu ∈ s.searched (K.over m) now, K.responseSize ≤ pdu.length
  | _ => True

theorem poll_of_busy {now : UInt64} (hbusy : s.clientState.state ≠ .idle)
    (htime : s.timedOut now = false) (response : RpcResponse) :
    s.poll C now response =
      match s.pendingResponses.find? (s.matchesRequest C) with
      | none => (s, .none, response)
      | some pdu =>
          let s' :=
            { s with
              pendingResponses :=
                s.pendingResponses.eraseP (s.matchesRequest C) }
          let response := ⟨readResponse C pdu, pdu⟩
          let handled := s'.handleResponseIn response
          (handled.1, handled.2, response) := by
  exact (if_neg hbusy).trans (if_neg (by rw [htime]; simp))

/-- A `poll` depends on the responses that it comes across. -/
theorem poll_congr {C' : RpcConvertors} {now : UInt64}
    (h : ∀ pdu ∈ s.searched C now, readResponse C pdu = readResponse C' pdu)
    (response : RpcResponse) :
    s.poll C' now response = s.poll C now response := by
  by_cases hidle : s.clientState.state = .idle
  · rw [poll, poll, if_pos hidle, if_pos hidle]
  cases htime : s.timedOut now with
  | true => rw [poll, poll, if_neg hidle, if_neg hidle, htime, if_pos rfl, if_pos rfl]
  | false =>
      rw [searched, if_neg (by simp [hidle, htime])] at h
      have hmatches : ∀ pdu ∈ s.pendingResponses.take
          (s.pendingResponses.findIdx (s.matchesRequest C) + 1),
          s.matchesRequest C pdu = s.matchesRequest C' pdu := by
        intro pdu hpdu
        rw [matchesRequest, matchesRequest, h pdu hpdu]
      obtain ⟨hfind, herase⟩ := search_congr hmatches
      rw [poll_of_busy hidle htime, poll_of_busy hidle htime, ← hfind, ← herase]
      cases hpdu : s.pendingResponses.find? (s.matchesRequest C) with
      | none => rfl
      | some pdu =>
          dsimp only
          rw [h pdu (mem_take_of_find? hpdu)]

theorem handleResponseIn_withoutShort (size : ℕ) (s : RpcClientEndpointImpl)
    (response : RpcResponse) :
    (s.withoutShort size).handleResponseIn response =
      ((s.handleResponseIn response).1.withoutShort size,
        (s.handleResponseIn response).2) := by
  have hvalid : (s.withoutShort size).validateHeader response.header =
      s.validateHeader response.header := rfl
  unfold handleResponseIn
  rw [hvalid]
  split_ifs <;> rfl

/-- A `poll` that comes across no short packet ignores all of them. -/
theorem poll_withoutShort {size : ℕ} {now : UInt64}
    (h : ∀ pdu ∈ s.searched C now, size ≤ pdu.length)
    (response : RpcResponse) :
    (s.poll C now response).2 = ((s.withoutShort size).poll C now response).2 ∧
      (s.poll C now response).1.withoutShort size =
        ((s.withoutShort size).poll C now response).1 := by
  by_cases hidle : s.clientState.state = .idle
  · have hidle' : (s.withoutShort size).clientState.state = .idle := hidle
    rw [poll, poll, if_pos hidle, if_pos hidle']
    exact ⟨rfl, rfl⟩
  have hidle' : (s.withoutShort size).clientState.state ≠ .idle := hidle
  cases htime : s.timedOut now with
  | true =>
      have htime' : (s.withoutShort size).timedOut now = true := htime
      rw [poll, poll, if_neg hidle, if_neg hidle', htime, htime', if_pos rfl,
        if_pos rfl]
      exact ⟨rfl, rfl⟩
  | false =>
      have htime' : (s.withoutShort size).timedOut now = false := htime
      rw [searched, if_neg (by simp [hidle, htime])] at h
      obtain ⟨hfind, herase⟩ :=
        search_filter (q := fun pdu => decide (size ≤ pdu.length))
          fun pdu hpdu => decide_eq_true (h pdu hpdu)
      have hfind' : (s.withoutShort size).pendingResponses.find?
          ((s.withoutShort size).matchesRequest C) =
            s.pendingResponses.find? (s.matchesRequest C) := hfind
      have herase' : (s.withoutShort size).pendingResponses.eraseP
          ((s.withoutShort size).matchesRequest C) =
            (s.pendingResponses.eraseP (s.matchesRequest C)).filter
              fun pdu => size ≤ pdu.length := herase
      rw [poll_of_busy hidle htime, poll_of_busy hidle' htime', hfind', herase']
      cases s.pendingResponses.find? (s.matchesRequest C) with
      | none => exact ⟨rfl, rfl⟩
      | some pdu =>
          have hhandled := handleResponseIn_withoutShort size
            { s with
              pendingResponses :=
                s.pendingResponses.eraseP (s.matchesRequest C) }
            ⟨readResponse C pdu, pdu⟩
          have hstate := congrArg Prod.fst hhandled
          have hevent := congrArg Prod.snd hhandled
          exact ⟨Prod.ext hevent.symm rfl, hstate.symm⟩

theorem readResponse_misread (C : RpcConvertors) (pdu : PduData)
    (request : ServiceRequestHeader) (response : ServiceResponseHeader)
    (pdu' : PduData) :
    readResponse (C.misread pdu request response) pdu' =
      if pdu' = pdu then response else readResponse C pdu' := rfl

/-- A `poll` decodes the responses that it comes across. -/
theorem decodes_searched {now : UInt64} {pdu : PduData}
    (hpdu : pdu ∈ s.searched C now) (response : RpcResponse) :
    Decodes C s (.poll now response) pdu := by
  unfold searched at hpdu
  split_ifs at hpdu with hskip
  · cases hpdu
  obtain ⟨hbusy, htime⟩ := not_or.mp hskip
  rw [Bool.not_eq_true] at htime
  rcases find?_eq_some_or_neg hpdu with hfind | hother
  · -- another answer with the same id is reported as it is
    let header : ServiceResponseHeader :=
      { readResponse C pdu with status := (readResponse C pdu).status + 1 }
    refine ⟨emptyRequest.header, header, fun h => ?_⟩
    have hmatches : s.matchesRequest (C.misread pdu emptyRequest.header header) =
        s.matchesRequest C := by
      funext pdu'
      unfold matchesRequest
      rw [readResponse_misread]
      by_cases heq : pdu' = pdu
      · rw [if_pos heq, heq]
      · rw [if_neg heq]
    have hobs := congrArg Prod.snd h
    simp only [machine, poll_of_busy hbusy htime, hmatches, hfind,
      List.cons.injEq, Obs.polled.injEq, and_true] at hobs
    have hstatus := congrArg (fun r => r.header.status) hobs.2
    simp [readResponse_misread, header] at hstatus
  · -- read with the id in flight, it ends the search
    let header : ServiceResponseHeader :=
      { readResponse C pdu with requestId := s.clientState.requestId }
    refine ⟨emptyRequest.header, header, fun h => ?_⟩
    have hfind : s.pendingResponses.find?
        (s.matchesRequest (C.misread pdu emptyRequest.header header)) =
          some pdu := by
      apply find?_of_mem_take hpdu
      · simp [matchesRequest, readResponse_misread, header]
      · intro pdu' hne
        unfold matchesRequest
        rw [readResponse_misread, if_neg hne]
    cases hnone : s.pendingResponses.find? (s.matchesRequest C) with
    | none =>
        have hstate := congrArg (fun x => x.1.clientState.state) h
        simp only [machine, poll_of_busy hbusy htime, hfind, hnone] at hstate
        apply hbusy
        rw [← hstate]
        unfold handleResponseIn
        split_ifs <;> rfl
    | some pdu' =>
        have hobs := congrArg Prod.snd h
        simp only [machine, poll_of_busy hbusy htime, hfind, hnone,
          List.cons.injEq, Obs.polled.injEq, and_true] at hobs
        have hsame : pdu = pdu' := congrArg RpcResponse.pdu hobs.2
        have hmatch := List.find?_some hnone
        rw [← hsame, hother] at hmatch
        cases hmatch

/-- Nothing else is decoded. -/
theorem Decodes.searched {i : Input} {pdu : PduData} (h : Decodes C s i pdu) :
    ∃ now response, i = .poll now response ∧ pdu ∈ s.searched C now := by
  obtain ⟨request, header, hne⟩ := h
  cases i with
  | receive pdu => exact absurd rfl hne
  | createRequestBuffer net opcode isCancelRequest pdu => exact absurd rfl hne
  | call net now pdu timeoutUsec => exact absurd rfl hne
  | sendCancelRequest net => exact absurd rfl hne
  | clearPendingResponses => exact absurd rfl hne
  | poll now response =>
      refine ⟨now, response, rfl, ?_⟩
      by_contra hpdu
      apply hne
      have hread : ∀ pdu' ∈ s.searched C now, readResponse C pdu' =
          readResponse (C.misread pdu request header) pdu' := by
        intro pdu' hpdu'
        have hother : pdu' ≠ pdu := fun heq => hpdu (heq ▸ hpdu')
        rw [readResponse_misread, if_neg hother]
      simp only [machine, poll_congr hread]

theorem guarded_iff {i : Memory × Input} : Guarded K s i ↔ LongEnough K s i := by
  obtain ⟨m, i⟩ := i
  constructor
  · intro h
    cases i with
    | receive pdu => trivial
    | createRequestBuffer net opcode isCancelRequest pdu => trivial
    | call net now pdu timeoutUsec => trivial
    | sendCancelRequest net => trivial
    | clearPendingResponses => trivial
    | poll now response =>
        intro pdu hpdu
        exact readsInside_iff.mp (h.inside pdu (decodes_searched hpdu response))
  · intro h
    refine ⟨fun pdu hpdu => ?_, ?_, ?_⟩
    · obtain ⟨now, response, rfl, hsearched⟩ := hpdu.searched
      exact readsInside_iff.mpr (h pdu hsearched)
    · intro m'
      cases i with
      | receive pdu => rfl
      | createRequestBuffer net opcode isCancelRequest pdu => rfl
      | call net now pdu timeoutUsec => rfl
      | sendCancelRequest net => rfl
      | clearPendingResponses => rfl
      | poll now response =>
          have hpoll : s.poll (K.over m') now response =
              s.poll (K.over m) now response := by
            refine poll_congr (fun pdu hpdu => ?_) response
            simp only [readResponse, RawConvertors.over,
              readBytes_eq (h pdu hpdu) m m']
          simp only [memoryMachine, machine, hpoll]
    · rintro now response rfl
      exact poll_withoutShort h response

end RpcClientEndpointImpl

/-! ## Runs -/

/-- In a run of either endpoint every step reads headers from the packets alone
and discards what is too short, exactly if no step decodes a packet that is too
short. -/
theorem truncated_packets_ignored_iff (K : RawConvertors) :
    (∀ s is,
      (RpcServerEndpointImpl.memoryMachine K).Along
          (RpcServerEndpointImpl.Guarded K) s is ↔
        (RpcServerEndpointImpl.memoryMachine K).Along
          (RpcServerEndpointImpl.LongEnough K) s is) ∧
    ∀ s is,
      (RpcClientEndpointImpl.memoryMachine K).Along
          (RpcClientEndpointImpl.Guarded K) s is ↔
        (RpcClientEndpointImpl.memoryMachine K).Along
          (RpcClientEndpointImpl.LongEnough K) s is := by
  constructor
  · intro s is
    exact (RpcServerEndpointImpl.memoryMachine K).along_congr
      (I := fun _ => True) (fun _ _ _ => trivial)
      (fun _ _ _ => RpcServerEndpointImpl.guarded_iff) trivial
  · intro s is
    exact (RpcClientEndpointImpl.memoryMachine K).along_congr
      (I := fun _ => True) (fun _ _ _ => trivial)
      (fun _ _ _ => RpcClientEndpointImpl.guarded_iff) trivial

/-! ## A packet of thirty bytes -/

section Sample

open ServiceLayout

/-- The convertors of the documented layout. -/
def layoutReaders : RawConvertors where
  requestSize := 289
  responseSize := 290
  readRequest bytes _ := decodeRequestHeader (bytes.drop 24)
  readResponse bytes _ := decodeResponseHeader (bytes.drop 24)
  writeRequest := layoutConvertors.request.cpp2pdu
  writeResponse := layoutConvertors.response.cpp2pdu

/-- The buffer still holds an earlier packet behind the bytes of the new one. -/
def staleMemory (old : PduData) : Memory := fun _ offset => old.getD offset 0

/-- A server of the service `"Add"` that has received the first thirty bytes of
a request. -/
def truncatedRequest : RpcServerEndpointImpl :=
  (RpcServerEndpointImpl.initializeService "Add" serviceConfig
    none).putPendingRequest ((servicePacket 1 0).take 30)

/-- The answer to request `1`. -/
def truncatedAnswer : PduData :=
  responsePacket
    { requestId := 1
      serviceName := "Add"
      clientName := "Client"
      status := 2
      processingPercentage := 100
      resultCode := 0 }

/-- A client with request `1` in flight that has received the first thirty bytes
of an answer. -/
def truncatedResponse : RpcClientEndpointImpl :=
  { RpcClientEndpointImpl.create "Add" "Client" with
    clientState := ⟨1, .running⟩
    currentRequestId := 1
    pendingResponses := [truncatedAnswer.take 30] }

/-- The server reports the truncated request and the client the truncated
response, with what an earlier packet has left behind them in memory; with zeros
behind them they report nothing. -/
theorem truncated_packets_reported :
    ((servicePacket 1 0).take 30).length < layoutReaders.requestSize ∧
      (truncatedRequest.poll
        (layoutReaders.over (staleMemory (servicePacket 1 0))) sampleNet
        emptyRequest).result.1 = .requestIn ∧
      (truncatedRequest.poll
        (layoutReaders.over (staleMemory (servicePacket 1 0))) sampleNet
        emptyRequest).state.status "Client" = some ⟨1, .running⟩ ∧
      (truncatedRequest.poll (layoutReaders.over (staleMemory [])) sampleNet
        emptyRequest).result.1 = .none ∧
      (truncatedAnswer.take 30).length < layoutReaders.responseSize ∧
      (truncatedResponse.poll
        (layoutReaders.over (staleMemory truncatedAnswer)) 0
        ⟨RpcClientEndpointImpl.blankHeader, []⟩).2.1 = .responseIn ∧
      (truncatedResponse.poll
        (layoutReaders.over (staleMemory truncatedAnswer)) 0
        ⟨RpcClientEndpointImpl.blankHeader, []⟩).1.clientState =
          ⟨1, .idle⟩ ∧
      (truncatedResponse.poll (layoutReaders.over (staleMemory [])) 0
        ⟨RpcClientEndpointImpl.blankHeader, []⟩).2.1 ≠ .responseIn := by
  decide +kernel

end Sample

end Rpc
end HakoPduRpc
