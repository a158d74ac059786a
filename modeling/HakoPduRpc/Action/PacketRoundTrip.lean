import HakoPduRpc.Action.SlotStores
import HakoPduRpc.Pdu.Transmission

/-!
# Packets between the two endpoints

A client and a server endpoint that are initialized from the same Action
definition have the same routing table, and keep it.  So what one of them hands
to `Endpoint::send` is queued by the other one under the right slot, passes the
exact check of `poll()` and shows the header that was written; the bytes around
the header are those of the packet that the caller passed in.

The second half is about fresh packets: the buffers that the endpoints create
for the application pass the check of the operation they are made for, on
whatever slot the Goal has.
-/

namespace HakoPduRpc.Action

/-! ## The sizes of a routing table -/

/-- The packet base size of a channel kind. -/
def SlotRouting.baseSize (r : SlotRouting) : ActionChannelKind → UInt32
  | .request => r.requestPacketBaseSize
  | .response => r.responsePacketBaseSize
  | .feedback => r.feedbackPacketBaseSize

/-- The heap capacity that a definition gives to a channel kind. -/
def ActionBufferHeap.size (heap : ActionBufferHeap) :
    ActionChannelKind → UInt64
  | .request => heap.requestSize
  | .response => heap.responseSize
  | .feedback => heap.feedbackSize

theorem SlotRouting.baseSize_setChannel (r : SlotRouting)
    (k k' : ActionChannelKind) (key : PduResolvedKey) (t : String)
    (b : UInt32) :
    (r.setChannel k key t b).baseSize k' =
      if k' = k then b else r.baseSize k' := by
  cases k <;> cases k' <;> rfl

@[simp] theorem SlotRouting.heapCapacity_setChannel (r : SlotRouting)
    (k k' : ActionChannelKind) (key : PduResolvedKey) (t : String)
    (b : UInt32) :
    (r.setChannel k key t b).heapCapacity k' = r.heapCapacity k' := by
  cases k <;> cases k' <;> rfl

/-- A channel of the table has room for its header and a supported size. -/
def ChannelFits (R : PduRegistry) (r : SlotRouting)
    (kind : ActionChannelKind) : Prop :=
  channelHeaderSize R kind ≤ (r.baseSize kind).toUInt64 ∧
    R.supportedPacketCapacity (r.baseSize kind) (r.heapCapacity kind) = true

/-- The invariant of the channel loop on the sizes. -/
structure RoutingState.Sized (R : PduRegistry) (heap : ActionBufferHeap)
    (st : RoutingState) : Prop where
  heapCapacity_eq : ∀ {i : ℕ} {r : SlotRouting}, st.routing[i]? = some r →
    ∀ kind, r.heapCapacity kind = heap.size kind
  fits : ∀ {i : ℕ} {r : SlotRouting} {m : UInt8} {kind : ActionChannelKind},
    st.routing[i]? = some r → st.channelMasks[i]? = some m →
    m &&& kind.mask ≠ 0 → ChannelFits R r kind

theorem sized_initial (R : PduRegistry) (definition : ActionDefinition) :
    (initialRouting definition).Sized R definition.bufferHeap where
  heapCapacity_eq := by
    intro i r h kind
    simp only [initialRouting, List.getElem?_map, Option.map_eq_some_iff] at h
    obtain ⟨j, -, rfl⟩ := h
    cases kind <;> rfl
  fits := by
    intro i r m kind _ hm hbit
    have : m = 0 := by
      simp only [initialRouting, List.getElem?_replicate] at hm
      split_ifs at hm
      simpa using hm.symm
    simp [this] at hbit

theorem sized_routeChannel {R : PduRegistry} {heap : ActionBufferHeap}
    {actionName : String} {st st' : RoutingState}
    {channel : ActionChannelDefinition} (hst : st.Sized R heap)
    (h : routeChannel R actionName st channel = some st') :
    st'.Sized R heap := by
  unfold routeChannel at h
  split at h
  · simp at h
  · next slot hslot =>
      split_ifs at h
      split at h
      · simp at h
      · next baseSize _ =>
          split_ifs at h with hrefused
          obtain ⟨hheader, hsupported⟩ := not_or.mp hrefused
          simp only [Option.some.injEq] at h
          subst h
          constructor
          · intro i r hr kind
            simp only [List.getElem?_modify, Option.map_eq_map,
              Option.map_eq_some_iff] at hr
            obtain ⟨r₀, hr₀, rfl⟩ := hr
            split_ifs <;> simp [hst.heapCapacity_eq hr₀]
          · intro i r m kind hr hm hbit
            simp only [List.getElem?_modify, Option.map_eq_map,
              Option.map_eq_some_iff] at hr hm
            obtain ⟨r₀, hr₀, rfl⟩ := hr
            obtain ⟨m₀, hm₀, rfl⟩ := hm
            by_cases hi : channel.slotIndex = i
            · simp only [hi, if_true] at hbit ⊢
              by_cases hkind : kind = channel.kind
              · rw [hi, hr₀, Option.some.injEq] at hslot
                subst hslot hkind
                simp only [ChannelFits, SlotRouting.baseSize_setChannel,
                  SlotRouting.heapCapacity_setChannel, if_true]
                exact ⟨UInt64.not_lt.mp hheader, not_not.mp hsupported⟩
              · obtain hk | hold := mask_or m₀ channel.kind kind hbit
                · exact absurd hk hkind
                · have hfits := hst.fits hr₀ hm₀ hold
                  simpa [ChannelFits, SlotRouting.baseSize_setChannel, hkind]
                    using hfits
            · simp only [hi, if_false] at hbit ⊢
              exact hst.fits hr₀ hm₀ hbit

theorem sized_foldlM {R : PduRegistry} {heap : ActionBufferHeap}
    {actionName : String} {ds : List ActionChannelDefinition}
    {st st' : RoutingState} (hst : st.Sized R heap)
    (h : ds.foldlM (routeChannel R actionName) st = some st') :
    st'.Sized R heap := by
  induction ds generalizing st with
  | nil =>
      simp only [List.foldlM_nil, Option.pure_def, Option.some.injEq] at h
      simpa [← h] using hst
  | cons d ds ih =>
      rw [List.foldlM_cons, Option.bind_eq_bind,
        Option.bind_eq_some_iff] at h
      obtain ⟨next, hnext, h⟩ := h
      exact ih (sized_routeChannel hst hnext) h

/-- A table in which every channel fits, with one heap capacity per kind. -/
structure RoutingSized (R : PduRegistry) (heap : ActionBufferHeap)
    (routing : List SlotRouting) : Prop where
  heapCapacity_eq : ∀ {i : ℕ} {r : SlotRouting}, routing[i]? = some r →
    ∀ kind, r.heapCapacity kind = heap.size kind
  fits : ∀ {i : ℕ} {r : SlotRouting}, routing[i]? = some r →
    ∀ kind, ChannelFits R r kind

theorem parseRouting_sized {R : PduRegistry} {actionName : String}
    {definition : ActionDefinition} {routing : List SlotRouting}
    (h : parseRouting R actionName definition = some routing) :
    RoutingSized R definition.bufferHeap routing := by
  unfold parseRouting at h
  split at h
  · simp at h
  · next st hfold =>
      split_ifs at h with hmasks
      simp only [Option.some.injEq] at h
      subst h
      have hst := sized_foldlM (sized_initial R definition) hfold
      have hrouted := routed_foldlM (routed_initial actionName definition) hfold
      refine ⟨hst.heapCapacity_eq, ?_⟩
      intro i r hr kind
      have hi : i < st.channelMasks.length := by
        rw [hrouted.length_masks]
        exact (List.getElem?_eq_some_iff.mp hr).1
      -- every mask is full
      have hfull : st.channelMasks[i] = 0x07 := by
        simp only [List.any_eq_true, not_exists, not_and,
          decide_eq_true_eq, not_not] at hmasks
        exact hmasks _ (List.getElem_mem hi)
      refine hst.fits hr (List.getElem?_eq_getElem hi) ?_
      rw [hfull]
      cases kind <;> decide

/-! ## Endpoints with a given table -/

namespace ActionServerEndpointImpl

variable {R : PduRegistry} {ep ep₀ : ActionServerEndpointImpl}
  {routing : List SlotRouting}

/-- An initialized server endpoint with its slots in order. -/
structure Routes (routing : List SlotRouting)
    (ep : ActionServerEndpointImpl) : Prop extends Stored ep where
  initialized_eq : ep.initialized = true
  slotRouting_eq : ep.slotRouting = routing

/-- An operation leaves the table alone. -/
def KeepsTable (ep ep' : ActionServerEndpointImpl) : Prop :=
  ep'.initialized = ep.initialized ∧ ep'.slotRouting = ep.slotRouting

theorem keepsTable_respond {net : SendOracle} {goal : ServerGoalHandle}
    {allowed : ActionPacketBinding → Bool} {kind : UInt8}
    {decision : Decision}
    {commit : ActionPacketBinding → ActionServerEndpointImpl}
    (hcommit : ∀ b, KeepsTable ep (commit b)) :
    KeepsTable ep
      (ep.respond R net goal allowed kind decision commit).state := by
  unfold ActionServerEndpointImpl.respond
  split_ifs
  · exact ⟨rfl, rfl⟩
  · split
    · exact ⟨rfl, rfl⟩
    · split_ifs
      · split
        · exact ⟨rfl, rfl⟩
        · split
          · exact ⟨rfl, rfl⟩
          · dsimp only
            split_ifs
            · exact hcommit _
            · exact ⟨rfl, rfl⟩
      · exact ⟨rfl, rfl⟩

theorem keepsTable_poll (net : SendOracle) :
    KeepsTable ep (ep.poll R net).state := by
  unfold ActionServerEndpointImpl.poll
  split_ifs
  · split
    · exact ⟨rfl, rfl⟩
    · split
      · exact ⟨rfl, rfl⟩
      · dsimp only
        split
        · exact ⟨rfl, rfl⟩
        · split_ifs
          · unfold handleCancelRequest
            split <;> exact ⟨rfl, rfl⟩
          · unfold handleGoalRequest
            split <;> exact ⟨rfl, rfl⟩
  · exact ⟨rfl, rfl⟩

/-- An initialized endpoint keeps its table in every step. -/
theorem keepsTable_step (hinit : ep.initialized = true)
    (i : ServerEndpointInput) :
    KeepsTable ep ((serverEndpointMachine R).step ep i).1 := by
  cases i with
  | initializeEndpoint actionConfig =>
      simp only [serverEndpointMachine, initializeEndpoint_again hinit]
      exact ⟨rfl, rfl⟩
  | receive key data => exact ⟨rfl, rfl⟩
  | poll net => exact keepsTable_poll net
  | acceptGoal net goal => exact keepsTable_respond fun _ => ⟨rfl, rfl⟩
  | rejectGoal net goal => exact keepsTable_respond fun _ => ⟨rfl, rfl⟩
  | acceptCancel net goal => exact keepsTable_respond fun _ => ⟨rfl, rfl⟩
  | rejectCancel net goal => exact keepsTable_respond fun _ => ⟨rfl, rfl⟩
  | acceptCancelLocally goal =>
      obtain hdone | ⟨b, -, -, hdone⟩ := acceptCancelLocally_cases
        (rfl : ep.acceptCancelLocally goal = _)
      · simp only [serverEndpointMachine, hdone]
        exact ⟨rfl, rfl⟩
      · simp only [serverEndpointMachine, hdone]
        exact ⟨rfl, rfl⟩
  | sendFeedback net goal feedbackPdu =>
      obtain ⟨-, hstate, -⟩ | ⟨b, key, data, -, -, -, hdone⟩ :=
        sendFeedback_cases (rfl : ep.sendFeedback R net goal feedbackPdu = _)
      · simp only [serverEndpointMachine, hstate]
        exact ⟨rfl, rfl⟩
      · simp only [serverEndpointMachine, hdone]
        exact ⟨rfl, rfl⟩
  | complete net goal status resultPdu =>
      obtain ⟨-, hstate, -⟩ | ⟨b, -, -, ⟨-, hstate, -⟩ |
        ⟨key, data, -, hdone⟩⟩ :=
        complete_cases (rfl : ep.complete R net goal status resultPdu = _)
      · simp only [serverEndpointMachine, hstate]
        exact ⟨rfl, rfl⟩
      · simp only [serverEndpointMachine, hstate]
        exact ⟨rfl, rfl⟩
      · simp only [serverEndpointMachine, hdone]
        exact ⟨rfl, rfl⟩
  | completeLocally goal status resultPdu =>
      obtain hdone | ⟨b, -, -, hdone⟩ := completeLocally_cases
        (rfl : ep.completeLocally R goal status resultPdu = _)
      · simp only [serverEndpointMachine, hdone]
        exact ⟨rfl, rfl⟩
      · simp only [serverEndpointMachine, hdone]
        exact ⟨rfl, rfl⟩
  | discardPendingGoal goal =>
      obtain hdone | ⟨b, -, -, hdone⟩ := discardPendingGoal_cases
        (rfl : ep.discardPendingGoal goal = _)
      · simp only [serverEndpointMachine, hdone]
        exact ⟨rfl, rfl⟩
      · simp only [serverEndpointMachine, hdone]
        exact ⟨rfl, rfl⟩
  | clearPendingEvents => exact ⟨rfl, rfl⟩
  | resetContexts => exact ⟨rfl, rfl⟩

theorem Routes.step (h : ep.Routes routing) (i : ServerEndpointInput) :
    ((serverEndpointMachine R).step ep i).1.Routes routing := by
  obtain ⟨hinit, htable⟩ := keepsTable_step (R := R) h.initialized_eq i
  exact ⟨h.toStored.step i, hinit.trans h.initialized_eq,
    htable.trans h.slotRouting_eq⟩

/-- A server endpoint after `initialize` and any further inputs. -/
theorem routes_run {actionName : String} {actionConfig : Json}
    {definition : ActionDefinition}
    (hparse : parseAction actionConfig = .ok definition)
    (hinit : initializeEndpoint R { actionName := actionName } actionConfig =
      some ep₀) :
    ∃ routing, parseRouting R actionName definition = some routing ∧
      ∀ is, ((serverEndpointMachine R).run ep₀ is).Routes routing := by
  obtain ⟨definition', routing, hparse', -, hrouting, -, hep₀⟩ :=
    initializeEndpoint_ok hinit
  obtain rfl : definition = definition' :=
    Except.ok.inj (hparse.symm.trans hparse')
  refine ⟨routing, hrouting, ?_⟩
  intro is
  have hstored : ep₀.Stored := by
    have := stored_run R actionName [.initializeEndpoint actionConfig]
    simpa [serverEndpointMachine, hinit] using this
  refine (serverEndpointMachine R).invariant (C := fun _ _ => True)
    (I := Routes routing) (fun _ i _ hs => hs.step i)
    ⟨hstored, ?_, ?_⟩
    ((serverEndpointMachine R).along_of_forall (fun _ _ _ => trivial) _)
  · rw [hep₀]
  · rw [hep₀]

end ActionServerEndpointImpl

namespace ActionClientEndpointImpl

variable {R : PduRegistry} {ep ep₀ : ActionClientEndpointImpl}
  {routing : List SlotRouting}

/-- An initialized client endpoint with its slots in order. -/
structure Routes (routing : List SlotRouting)
    (ep : ActionClientEndpointImpl) : Prop extends Stored ep where
  initialized_eq : ep.initialized = true
  slotRouting_eq : ep.slotRouting = routing

/-- An operation leaves the table alone. -/
def KeepsTable (ep ep' : ActionClientEndpointImpl) : Prop :=
  ep'.initialized = ep.initialized ∧ ep'.slotRouting = ep.slotRouting

theorem Stored.keepsTable_poll (h : ep.Stored) (now : UInt64) :
    KeepsTable ep (ep.poll R now).1 := by
  have hpoll := h.poll_update (R := R) now
  generalize (ep.poll R now).1 = ep' at hpoll ⊢
  generalize (ep.poll R now).2 = event at hpoll
  cases hpoll with
  | same packets => exact ⟨rfl, rfl⟩
  | packet packets hb hadvance hupdate =>
      exact ⟨hupdate.initialized_eq, hupdate.slotRouting_eq⟩
  | timeout packets hb hdue hupdate =>
      exact ⟨hupdate.initialized_eq, hupdate.slotRouting_eq⟩

/-- An initialized endpoint keeps its table in every step. -/
theorem Stored.keepsTable_step (h : ep.Stored)
    (hinit : ep.initialized = true) (i : ClientEndpointInput) :
    KeepsTable ep ((clientEndpointMachine R).step ep i).1 := by
  cases i with
  | initializeEndpoint actionConfig =>
      simp only [clientEndpointMachine, initializeEndpoint_again hinit]
      exact ⟨rfl, rfl⟩
  | receive key data => exact ⟨rfl, rfl⟩
  | poll now => exact h.keepsTable_poll now
  | sendGoalWithResult net now pdu g timeoutUsec =>
      by_cases hok : (ep.sendGoalWithResult R net now pdu g
          timeoutUsec).result = .success
      · obtain ⟨slot, -, -, -, hupdate⟩ := h.sendGoal_update hok
        exact ⟨hupdate.initialized_eq, hupdate.slotRouting_eq⟩
      · simp only [clientEndpointMachine, sendGoal_failed hok]
        exact ⟨rfl, rfl⟩
  | sendCancel net goal =>
      obtain ⟨-, hstate, -⟩ | ⟨b, key, data, -, -, -, hdone⟩ :=
        sendCancel_cases (rfl : ep.sendCancel R net goal = _)
      · simp only [clientEndpointMachine, hstate]
        exact ⟨rfl, rfl⟩
      · simp only [clientEndpointMachine, hdone]
        exact ⟨rfl, rfl⟩
  | clearPendingEvents => exact ⟨rfl, rfl⟩
  | resetContexts => exact ⟨rfl, rfl⟩

theorem Routes.step (h : ep.Routes routing) (i : ClientEndpointInput) :
    ((clientEndpointMachine R).step ep i).1.Routes routing := by
  obtain ⟨hinit, htable⟩ :=
    h.toStored.keepsTable_step (R := R) h.initialized_eq i
  exact ⟨h.toStored.step i, hinit.trans h.initialized_eq,
    htable.trans h.slotRouting_eq⟩

/-- A client endpoint after `initialize` and any further inputs. -/
theorem routes_run {actionName : String} {actionConfig : Json}
    {definition : ActionDefinition}
    (hparse : parseAction actionConfig = .ok definition)
    (hinit : initializeEndpoint R { actionName := actionName } actionConfig =
      some ep₀) :
    ∃ routing, parseRouting R actionName definition = some routing ∧
      ∀ is, ((clientEndpointMachine R).run ep₀ is).Routes routing := by
  obtain ⟨definition', routing, hparse', -, hrouting, -, hep₀⟩ :=
    initializeEndpoint_ok hinit
  obtain rfl : definition = definition' :=
    Except.ok.inj (hparse.symm.trans hparse')
  refine ⟨routing, hrouting, ?_⟩
  intro is
  have hstored : ep₀.Stored := by
    have := stored_run R actionName [.initializeEndpoint actionConfig]
    simpa [clientEndpointMachine, hinit] using this
  refine (clientEndpointMachine R).invariant (C := fun _ _ => True)
    (I := Routes routing) (fun _ i _ hs => hs.step i)
    ⟨hstored, ?_, ?_⟩
    ((clientEndpointMachine R).along_of_forall (fun _ _ _ => trivial) _)
  · rw [hep₀]
  · rw [hep₀]

end ActionClientEndpointImpl

/-! ## Arrival -/

/-- `validate_packet_capacity` of the client, in the order of its own checks. -/
def clientValidatePacketCapacity (R : PduRegistry) (packet : PduData)
    (baseSize : UInt32) (heapCapacity : UInt64)
    (requireExactBufferSize : Bool) : Option UInt64 :=
  if ¬R.hasValidPacketPrefix packet 0 ∨
      ¬R.supportedPacketCapacity baseSize heapCapacity then none
  else
    let metadata := R.readMetaData packet
    if metadata.totalSize.toUInt64 > packetSize packet ∨
        (requireExactBufferSize = true ∧
          metadata.totalSize.toUInt64 ≠ packetSize packet) ∨
        (metadata.totalSize - metadata.heapOff).toUInt64 >
          R.alignedSize heapCapacity then none
    else some metadata.totalSize.toUInt64

/-- The two validators agree on every packet. -/
theorem clientValidatePacketCapacity_eq (R : PduRegistry) (packet : PduData)
    (b : UInt32) (heap : UInt64) (exact : Bool) :
    clientValidatePacketCapacity R packet b heap exact =
      R.validatePacketCapacity packet b heap exact := by
  unfold clientValidatePacketCapacity PduRegistry.validatePacketCapacity
  by_cases hp : R.hasValidPacketPrefix packet 0
  · by_cases hs : R.supportedPacketCapacity b heap
    · simp only [hp, hs, not_true_eq_false, or_self, if_false]
      split_ifs <;> grind
    · simp [hp, hs]
  · simp [hp]

/-- The server queues the bytes under a slot, and the checks of its `poll()`
read the header out of them. -/
def RequestArrives (R : PduRegistry) (server : ActionServerEndpointImpl)
    (header : ActionRequestHeader) (p : PduData) (key : PduResolvedKey)
    (data : PduData) : Prop :=
  ∃ slot r, server.slotRouting[slot]? = some r ∧ key = r.request ∧
    { slotIndex := slot, pdu := data } ∈
      (server.receive key data).pendingPackets ∧
    server.readRequest R { slotIndex := slot, pdu := data } = some header ∧
    R.Delivered R.requestHeader r.requestPacketBaseSize r.requestHeapCapacity
      header p data

/-- The client queues the bytes as a response of a slot, and the checks of its
`poll()` read the header out of them. -/
def ResponseArrives (R : PduRegistry) (client : ActionClientEndpointImpl)
    (header : ActionResponseHeader) (p : PduData) (key : PduResolvedKey)
    (data : PduData) : Prop :=
  ∃ slot r, client.slotRouting[slot]? = some r ∧ key = r.response ∧
    { slotIndex := slot, kind := .response, pdu := data } ∈
      (client.receive key data).pendingPackets ∧
    clientValidatePacketCapacity R data r.responsePacketBaseSize
      r.responseHeapCapacity true = some (packetSize data) ∧
    readResponse R r data = some header ∧
    R.Delivered R.responseHeader r.responsePacketBaseSize
      r.responseHeapCapacity header p data

/-- The same for Feedback. -/
def FeedbackArrives (R : PduRegistry) (client : ActionClientEndpointImpl)
    (header : ActionFeedbackHeader) (p : PduData) (key : PduResolvedKey)
    (data : PduData) : Prop :=
  ∃ slot r, client.slotRouting[slot]? = some r ∧ key = r.feedback ∧
    { slotIndex := slot, kind := .feedback, pdu := data } ∈
      (client.receive key data).pendingPackets ∧
    clientValidatePacketCapacity R data r.feedbackPacketBaseSize
      r.feedbackHeapCapacity true = some (packetSize data) ∧
    readFeedback R r data = some header ∧
    R.Delivered R.feedbackHeader r.feedbackPacketBaseSize
      r.feedbackHeapCapacity header p data

section Arrival

variable {R : PduRegistry} {actionName : String} {slot : ℕ} {r : SlotRouting}
  {p data : PduData}

theorem requestArrives_of_delivered {server : ActionServerEndpointImpl}
    {header : ActionRequestHeader}
    (hwf : RoutingWellFormed actionName server.slotRouting)
    (hr : server.slotRouting[slot]? = some r)
    (hheader : ActionServerEndpointImpl.validateRequestHeader header = true)
    (h : R.Delivered R.requestHeader r.requestPacketBaseSize
      r.requestHeapCapacity header p data) :
    RequestArrives R server header p r.request data := by
  refine ⟨slot, r, hr, rfl, ?_, ?_, h⟩
  · rw [← hwf.slotIndex_eq hr]
    simp only [ActionServerEndpointImpl.receive, List.mem_append]
    right
    exact List.mem_map.mpr ⟨r, List.mem_filter.mpr
      ⟨List.mem_of_getElem? hr, by simp⟩, rfl⟩
  · simp [ActionServerEndpointImpl.readRequest, hr, h.validated, h.decoded,
      hheader]

theorem responseArrives_of_delivered {client : ActionClientEndpointImpl}
    {header : ActionResponseHeader}
    (hwf : RoutingWellFormed actionName client.slotRouting)
    (hr : client.slotRouting[slot]? = some r)
    (hversion : header.version = actionProtocolVersion)
    (hgoal : isValidGoalId header.goalId = true)
    (h : R.Delivered R.responseHeader r.responsePacketBaseSize
      r.responseHeapCapacity header p data) :
    ResponseArrives R client header p r.response data := by
  refine ⟨slot, r, hr, rfl, ?_, ?_, ?_, h⟩
  · rw [← hwf.slotIndex_eq hr]
    simp only [ActionClientEndpointImpl.receive, List.mem_append]
    right
    exact List.mem_flatMap.mpr ⟨r, List.mem_of_getElem? hr, by simp⟩
  · rw [clientValidatePacketCapacity_eq, h.validated]
  · simp [readResponse, h.validated, h.decoded, hversion, hgoal]

theorem feedbackArrives_of_delivered {client : ActionClientEndpointImpl}
    {header : ActionFeedbackHeader}
    (hwf : RoutingWellFormed actionName client.slotRouting)
    (hr : client.slotRouting[slot]? = some r)
    (hversion : header.version = actionProtocolVersion)
    (hgoal : isValidGoalId header.goalId = true)
    (h : R.Delivered R.feedbackHeader r.feedbackPacketBaseSize
      r.feedbackHeapCapacity header p data) :
    FeedbackArrives R client header p r.feedback data := by
  refine ⟨slot, r, hr, rfl, ?_, ?_, ?_, h⟩
  · rw [← hwf.slotIndex_eq hr]
    simp only [ActionClientEndpointImpl.receive, List.mem_append]
    right
    exact List.mem_flatMap.mpr ⟨r, List.mem_of_getElem? hr, by simp⟩
  · rw [clientValidatePacketCapacity_eq, h.validated]
  · simp [readFeedback, h.validated, h.decoded, hversion, hgoal]

end Arrival

/-! ## What the send paths hand over -/

namespace ActionClientEndpointImpl

variable {R : PduRegistry} {net : SendOracle} {ep : ActionClientEndpointImpl}

/-- The header of a request. -/
def requestHeaderOf (goalId : GoalId) (requestKind : UInt8) :
    ActionRequestHeader :=
  { version := actionProtocolVersion
    requestKind := requestKind
    goalId := goalId }

theorem requestPacket_delivered (hR : R.LawfulPackets) {slot : ℕ}
    {g : GoalId} {kind : UInt8} {p data : PduData} {key : PduResolvedKey}
    (h : requestPacket R ep slot g kind p = some (key, data)) :
    ∃ r, ep.slotRouting[slot]? = some r ∧ key = r.request ∧
      R.Delivered R.requestHeader r.requestPacketBaseSize
        r.requestHeapCapacity (requestHeaderOf g kind) p data := by
  obtain ⟨r, wireSize, packet, hr, rfl, hsize, hpacket, rfl⟩ :=
    requestPacket_ok h
  exact ⟨r, hr, rfl, PduRegistry.delivered_of_write hR.toLawful
    hR.request hR.requestOnly hsize hpacket⟩

end ActionClientEndpointImpl

namespace ActionServerEndpointImpl

variable {R : PduRegistry} {net : SendOracle} {ep : ActionServerEndpointImpl}

/-- The header of a response. -/
def responseHeaderOf (goalId : GoalId) (responseKind status : UInt8) :
    ActionResponseHeader :=
  { version := actionProtocolVersion
    responseKind := responseKind
    status := status
    goalId := goalId }

/-- The header of a Feedback packet. -/
def feedbackHeaderOf (goalId : GoalId) (sequence : UInt32) :
    ActionFeedbackHeader :=
  { version := actionProtocolVersion
    goalId := goalId
    sequenceNo := sequence }

theorem responsePacket_delivered (hR : R.LawfulPackets)
    {b : ActionPacketBinding} {kind status : UInt8} {p data : PduData}
    {key : PduResolvedKey}
    (h : responsePacket R ep b kind status p = some (key, data)) :
    ∃ r, ep.slotRouting[b.slotIndex]? = some r ∧ key = r.response ∧
      R.Delivered R.responseHeader r.responsePacketBaseSize
        r.responseHeapCapacity (responseHeaderOf b.goalId kind status) p
        data := by
  obtain ⟨r, wireSize, packet, hr, rfl, hsize, hpacket, rfl⟩ :=
    responsePacket_ok h
  exact ⟨r, hr, rfl, PduRegistry.delivered_of_write hR.toLawful
    hR.response hR.responseOnly hsize hpacket⟩

theorem feedbackPacket_delivered (hR : R.LawfulPackets)
    {b : ActionPacketBinding} {g : GoalId} {p data : PduData}
    {key : PduResolvedKey}
    (h : feedbackPacket R ep b g p = some (key, data)) :
    ∃ r, ep.slotRouting[b.slotIndex]? = some r ∧ key = r.feedback ∧
      R.Delivered R.feedbackHeader r.feedbackPacketBaseSize
        r.feedbackHeapCapacity (feedbackHeaderOf g b.nextFeedbackSequence) p
        data := by
  obtain ⟨r, wireSize, packet, hr, rfl, hsize, hpacket, rfl⟩ :=
    feedbackPacket_ok h
  exact ⟨r, hr, rfl, PduRegistry.delivered_of_write hR.toLawful
    hR.feedback hR.feedbackOnly hsize hpacket⟩

end ActionServerEndpointImpl

/-! ## Fresh packets are accepted -/

section Buffers

variable {R : PduRegistry} {heap : ActionBufferHeap}
  {routing : List SlotRouting}

/-- A buffer made for the first slot suits every slot of the table. -/
theorem RoutingSized.buffer_accepted (hR : R.LawfulPackets)
    (hsized : RoutingSized R heap routing) (kind : ActionChannelKind)
    {H : Type} {codec : HeaderCodec H} (honly : R.WritesHeaderOnly codec)
    (hsize : codec.size = channelHeaderSize R kind) {r₀ r : SlotRouting}
    (hr₀ : routing[0]? = some r₀) {slot : ℕ} (hr : routing[slot]? = some r)
    {p : PduData}
    (hcreate : R.createPacketBuffer (r₀.baseSize kind)
      (r₀.heapCapacity kind) = some p) (header : H) :
    p ≠ [] ∧ ∃ w q,
      R.validatePacketCapacity p (r.baseSize kind) (r.heapCapacity kind)
        false = some w ∧
      R.writeHeader codec p header = some q := by
  obtain ⟨hlaid, hne⟩ := PduRegistry.laidOut_of_createPacketBuffer hR hcreate
  have hsame : r₀.heapCapacity kind = r.heapCapacity kind := by
    rw [hsized.heapCapacity_eq hr₀, hsized.heapCapacity_eq hr]
  rw [hsame] at hlaid
  refine ⟨hne, PduRegistry.laidOut_accepted hR.toLawful honly hlaid ?_
    (hsized.fits hr kind).2 header⟩
  rw [hsize]
  exact (hsized.fits hr₀ kind).1

theorem createGoalBuffer_eq_some {ep : ActionClientEndpointImpl} {p : PduData}
    (h : ep.createGoalBuffer R = some p) :
    ∃ r, ep.slotRouting[0]? = some r ∧
      R.createPacketBuffer r.requestPacketBaseSize r.requestHeapCapacity =
        some p := by
  unfold ActionClientEndpointImpl.createGoalBuffer at h
  split at h
  · next r rest hrouting =>
      split_ifs at h
      exact ⟨r, by rw [hrouting]; rfl, h⟩
  · simp at h

theorem createResultBuffer_eq_some {ep : ActionServerEndpointImpl}
    {p : PduData} (h : ep.createResultBuffer R = some p) :
    ∃ r, ep.slotRouting[0]? = some r ∧
      R.createPacketBuffer r.responsePacketBaseSize r.responseHeapCapacity =
        some p := by
  unfold ActionServerEndpointImpl.createResultBuffer at h
  split at h
  · next r rest hrouting =>
      split_ifs at h
      exact ⟨r, by rw [hrouting]; rfl, h⟩
  · simp at h

theorem createFeedbackBuffer_eq_some {ep : ActionServerEndpointImpl}
    {p : PduData} (h : ep.createFeedbackBuffer R = some p) :
    ∃ r, ep.slotRouting[0]? = some r ∧
      R.createPacketBuffer r.feedbackPacketBaseSize r.feedbackHeapCapacity =
        some p := by
  unfold ActionServerEndpointImpl.createFeedbackBuffer at h
  split at h
  · next r rest hrouting =>
      split_ifs at h
      exact ⟨r, by rw [hrouting]; rfl, h⟩
  · simp at h

end Buffers

namespace ActionClientEndpointImpl

variable {R : PduRegistry} {heap : ActionBufferHeap}
  {routing : List SlotRouting} {ep made : ActionClientEndpointImpl}

theorem requestPacket_of_accepted {slot : ℕ} {r : SlotRouting}
    (hr : ep.slotRouting[slot]? = some r) {p q : PduData} {w : UInt64}
    {g : GoalId} {kind : UInt8}
    (hw : R.validatePacketCapacity p r.requestPacketBaseSize
      r.requestHeapCapacity false = some w)
    (hq : R.writeHeader R.requestHeader p (requestHeaderOf g kind) = some q) :
    requestPacket R ep slot g kind p = some (r.request, q.take w.toNat) := by
  unfold requestHeaderOf at hq
  simp [requestPacket, hr, hw, hq]

/-- A Goal buffer is sent whenever the endpoint has a slot for the Goal. -/
theorem Routes.sendGoal_accepts (h : ep.Routes routing)
    (hmade : made.Routes routing) (hR : R.LawfulPackets)
    (hsized : RoutingSized R heap routing) {p : PduData}
    (hp : made.createGoalBuffer R = some p) (net : SendOracle)
    (now timeoutUsec : UInt64) {g : GoalId} (hg : isValidGoalId g = true)
    (hnew : ep.packetBindings.find? g = none) (hfree : none ∈ ep.slotOwners) :
    ∃ key data,
      (ep.sendGoalWithResult R net now p g timeoutUsec).effects =
        [.send key data (net key data)] := by
  obtain ⟨r₀, hr₀, hcreate⟩ := createGoalBuffer_eq_some hp
  rw [hmade.slotRouting_eq] at hr₀
  obtain ⟨slot, hslot⟩ : ∃ slot,
      ep.slotOwners.findIdx? Option.isNone = some slot := by
    rw [← Option.isSome_iff_exists, List.findIdx?_isSome]
    exact List.any_eq_true.mpr ⟨none, hfree, rfl⟩
  obtain ⟨hlt, -, -⟩ := List.findIdx?_eq_some_iff_getElem.mp hslot
  rw [h.length_eq, h.slotRouting_eq] at hlt
  have hr := List.getElem?_eq_getElem hlt
  obtain ⟨-, w, q, hw, hq⟩ := hsized.buffer_accepted hR .request
    hR.requestOnly rfl hr₀ hr hcreate (requestHeaderOf g requestKindGoal)
  have hcontains := OrdMap.not_contains_iff.mpr hnew
  refine ⟨routing[slot].request, q.take w.toNat, ?_⟩
  simp only [sendGoalWithResult, hg, h.initialized_eq, hcontains, hslot,
    not_true_eq_false, Bool.false_eq_true, if_false]
  rw [requestPacket_of_accepted (by rw [h.slotRouting_eq]; exact hr) hw hq]

end ActionClientEndpointImpl

namespace ActionServerEndpointImpl

variable {R : PduRegistry} {heap : ActionBufferHeap}
  {routing : List SlotRouting} {ep made : ActionServerEndpointImpl}

/-- The slot of a bound Goal is a slot of the table. -/
theorem Routes.slot_exists (h : ep.Routes routing) {g : GoalId}
    {b : ActionPacketBinding} (hb : ep.packetBindings.find? g = some b) :
    ∃ r, routing[b.slotIndex]? = some r := by
  have hlt := h.consistent.slot_lt hb
  rw [h.length_eq, h.slotRouting_eq] at hlt
  exact ⟨_, List.getElem?_eq_getElem hlt⟩

theorem responsePacket_of_accepted {b : ActionPacketBinding}
    {r : SlotRouting} (hr : ep.slotRouting[b.slotIndex]? = some r)
    {p q : PduData} {w : UInt64} {kind status : UInt8} (hp : p ≠ [])
    (hw : R.validatePacketCapacity p r.responsePacketBaseSize
      r.responseHeapCapacity false = some w)
    (hq : R.writeHeader R.responseHeader p
      (responseHeaderOf b.goalId kind status) = some q) :
    responsePacket R ep b kind status p =
      some (r.response, q.take w.toNat) := by
  unfold responseHeaderOf at hq
  simp [responsePacket, hr, hw, hq, hp]

theorem feedbackPacket_of_accepted {b : ActionPacketBinding}
    {r : SlotRouting} (hr : ep.slotRouting[b.slotIndex]? = some r)
    {p q : PduData} {w : UInt64} {g : GoalId}
    (hw : R.validatePacketCapacity p r.feedbackPacketBaseSize
      r.feedbackHeapCapacity false = some w)
    (hq : R.writeHeader R.feedbackHeader p
      (feedbackHeaderOf g b.nextFeedbackSequence) = some q) :
    feedbackPacket R ep b g p = some (r.feedback, q.take w.toNat) := by
  unfold feedbackHeaderOf at hq
  simp [feedbackPacket, hr, hw, hq]

/-- A Feedback buffer is sent whenever the Goal may send Feedback. -/
theorem Routes.sendFeedback_accepts (h : ep.Routes routing)
    (hmade : made.Routes routing) (hR : R.LawfulPackets)
    (hsized : RoutingSized R heap routing) {p : PduData}
    (hp : made.createFeedbackBuffer R = some p) (net : SendOracle)
    {goal : ServerGoalHandle} (hg : isValidGoalId goal.goalId = true)
    {b : ActionPacketBinding}
    (hb : ep.packetBindings.find? goal.goalId = some b)
    (hstate : b.state = .goalAccepted ∨ b.state = .cancelAccepted) :
    ∃ key data, (ep.sendFeedback R net goal p).effects =
      [.send false key data (net key data)] := by
  obtain ⟨r₀, hr₀, hcreate⟩ := createFeedbackBuffer_eq_some hp
  rw [hmade.slotRouting_eq] at hr₀
  obtain ⟨r, hr⟩ := h.slot_exists hb
  obtain ⟨-, w, q, hw, hq⟩ := hsized.buffer_accepted hR .feedback
    hR.feedbackOnly rfl hr₀ hr hcreate
    (feedbackHeaderOf goal.goalId b.nextFeedbackSequence)
  refine ⟨r.feedback, q.take w.toNat, ?_⟩
  have hopen : ¬(b.state ≠ .goalAccepted ∧ b.state ≠ .cancelAccepted) := by
    rintro ⟨hgoal, hcancel⟩
    exact hstate.elim hgoal hcancel
  simp only [sendFeedback, ServerGoalHandle.valid, hg, h.initialized_eq, hb,
    not_true_eq_false, or_self, if_false, if_neg hopen]
  rw [feedbackPacket_of_accepted (by rw [h.slotRouting_eq]; exact hr) hw hq]

/-- A Result buffer is sent whenever the status may be committed. -/
theorem Routes.complete_accepts (h : ep.Routes routing)
    (hmade : made.Routes routing) (hR : R.LawfulPackets)
    (hsized : RoutingSized R heap routing) {p : PduData}
    (hp : made.createResultBuffer R = some p) (net : SendOracle)
    {goal : ServerGoalHandle} (hg : isValidGoalId goal.goalId = true)
    {b : ActionPacketBinding}
    (hb : ep.packetBindings.find? goal.goalId = some b)
    {status : TerminalStatus} (hstatus : mayComplete b status = true) :
    ∃ key data, (ep.complete R net goal status p).effects =
      [.commit goal.goalId status, .send false key data (net key data)] := by
  obtain ⟨r₀, hr₀, hcreate⟩ := createResultBuffer_eq_some hp
  rw [hmade.slotRouting_eq] at hr₀
  obtain ⟨r, hr⟩ := h.slot_exists hb
  obtain ⟨hne, w, q, hw, hq⟩ := hsized.buffer_accepted hR .response
    hR.responseOnly rfl hr₀ hr hcreate
    (responseHeaderOf b.goalId responseKindResult status.code)
  rw [← h.slotRouting_eq] at hr
  have hterminal : validateTerminalPacket R ep b status p = true := by
    unfold validateTerminalPacket
    rw [hr]
    simp only [mayComplete] at hstatus
    simp only [hstatus, not_true_eq_false, if_false]
    rw [show R.validatePacketCapacity p r.responsePacketBaseSize
      r.responseHeapCapacity false = some w from hw]
    rfl
  have hsent : responsePacket R (ep.modifyBinding goal.goalId committed)
      (committed b) responseKindResult status.code p =
      some (r.response, q.take w.toNat) :=
    responsePacket_of_accepted hr hne hw hq
  refine ⟨r.response, q.take w.toNat, ?_⟩
  simp only [complete, ServerGoalHandle.valid, hg, h.initialized_eq, hb,
    hterminal, not_true_eq_false, or_self, if_false, hsent]

end ActionServerEndpointImpl

/-! ## Round trips -/

/-- Every request that the client hands to `Endpoint::send`, whether the send
succeeds or not, arrives at the server. -/
structure RequestsArrive (R : PduRegistry) (client : ActionClientEndpointImpl)
    (server : ActionServerEndpointImpl) : Prop where
  goal : ∀ net now p g timeoutUsec key data ok,
    .send key data ok ∈
      (client.sendGoalWithResult R net now p g timeoutUsec).effects →
    RequestArrives R server
      (ActionClientEndpointImpl.requestHeaderOf g requestKindGoal) p key data
  cancel : ∀ net goal key data ok,
    .send key data ok ∈ (client.sendCancel R net goal).effects →
    ∃ p, client.createControlRequestPacket R = some p ∧
      RequestArrives R server
        (ActionClientEndpointImpl.requestHeaderOf goal.goalId
          requestKindCancel) p key data

/-- A decision of the server arrives at the client. -/
def DecisionArrives (R : PduRegistry) (server : ActionServerEndpointImpl)
    (client : ActionClientEndpointImpl) (goal : ServerGoalHandle)
    (kind : UInt8) (decision : Decision) (effects : List ServerEffect) :
    Prop :=
  ∀ errorReply key data ok, .send errorReply key data ok ∈ effects →
    ∃ p, server.createControlResponsePacket R = some p ∧
      ResponseArrives R client
        (ActionServerEndpointImpl.responseHeaderOf goal.goalId kind
          decision.code) p key data

/-- Everything that the server hands to `Endpoint::send` for a Goal, whether
the send succeeds or not, arrives at the client. -/
structure RepliesArrive (R : PduRegistry) (server : ActionServerEndpointImpl)
    (client : ActionClientEndpointImpl) : Prop where
  acceptGoal : ∀ net goal, DecisionArrives R server client goal
    responseKindGoal .accepted (server.acceptGoal R net goal).effects
  rejectGoal : ∀ net goal, DecisionArrives R server client goal
    responseKindGoal .rejected (server.rejectGoal R net goal).effects
  acceptCancel : ∀ net goal, DecisionArrives R server client goal
    responseKindCancel .accepted (server.acceptCancel R net goal).effects
  rejectCancel : ∀ net goal, DecisionArrives R server client goal
    responseKindCancel .rejected (server.rejectCancel R net goal).effects
  feedback : ∀ net goal p errorReply key data ok,
    .send errorReply key data ok ∈
      (server.sendFeedback R net goal p).effects →
    ∃ b, server.packetBindings.find? goal.goalId = some b ∧
      FeedbackArrives R client
        (ActionServerEndpointImpl.feedbackHeaderOf goal.goalId
          b.nextFeedbackSequence) p key data
  result : ∀ net goal status p errorReply key data ok,
    .send errorReply key data ok ∈
      (server.complete R net goal status p).effects →
    ResponseArrives R client
      (ActionServerEndpointImpl.responseHeaderOf goal.goalId
        responseKindResult status.code) p key data

section RoundTrip

variable {R : PduRegistry} {actionName : String}
  {routing : List SlotRouting} {client : ActionClientEndpointImpl}
  {server : ActionServerEndpointImpl}

open ActionClientEndpointImpl in
theorem requestsArrive (hR : R.LawfulPackets)
    (hwf : RoutingWellFormed actionName routing)
    (hclient : client.Routes routing) (hserver : server.Routes routing) :
    RequestsArrive R client server where
  goal := by
    intro net now p g timeoutUsec key data ok h
    obtain ⟨hg, slot, -, hpacket⟩ := send_of_sendGoal h
    obtain ⟨r, hr, rfl, hdelivered⟩ := requestPacket_delivered hR hpacket
    rw [hclient.slotRouting_eq, ← hserver.slotRouting_eq] at hr
    rw [← hserver.slotRouting_eq] at hwf
    refine requestArrives_of_delivered hwf hr ?_ hdelivered
    simp [ActionServerEndpointImpl.validateRequestHeader, requestHeaderOf, hg]
  cancel := by
    intro net goal key data ok h
    obtain ⟨hg, b, p, -, hp, hpacket⟩ := send_of_sendCancel h
    obtain ⟨r, hr, rfl, hdelivered⟩ := requestPacket_delivered hR hpacket
    rw [hclient.slotRouting_eq, ← hserver.slotRouting_eq] at hr
    rw [← hserver.slotRouting_eq] at hwf
    refine ⟨p, hp, requestArrives_of_delivered hwf hr ?_ hdelivered⟩
    simp [ActionServerEndpointImpl.validateRequestHeader, requestHeaderOf, hg]

open ActionServerEndpointImpl

theorem responseArrives_of_packet (hR : R.LawfulPackets)
    (hwf : RoutingWellFormed actionName routing)
    (hclient : client.Routes routing) (hserver : server.Routes routing)
    {g : GoalId} (hg : isValidGoalId g = true) {b : ActionPacketBinding}
    (hb : server.packetBindings.find? g = some b) {kind status : UInt8}
    {p data : PduData} {key : PduResolvedKey}
    (h : responsePacket R server b kind status p = some (key, data)) :
    ResponseArrives R client (responseHeaderOf g kind status) p key data := by
  obtain ⟨r, hr, rfl, hdelivered⟩ := responsePacket_delivered hR h
  rw [hserver.goalId_eq hb] at hdelivered
  rw [hserver.slotRouting_eq, ← hclient.slotRouting_eq] at hr
  rw [← hclient.slotRouting_eq] at hwf
  exact responseArrives_of_delivered hwf hr rfl hg hdelivered

theorem decisionArrives_respond (hR : R.LawfulPackets)
    (hwf : RoutingWellFormed actionName routing)
    (hclient : client.Routes routing) (hserver : server.Routes routing)
    (net : SendOracle) (goal : ServerGoalHandle)
    (allowed : ActionPacketBinding → Bool) (kind : UInt8)
    (decision : Decision)
    (commit : ActionPacketBinding → ActionServerEndpointImpl) :
    DecisionArrives R server client goal kind decision
      (server.respond R net goal allowed kind decision commit).effects := by
  intro errorReply key data ok h
  obtain ⟨-, hg, b, p, hb, hp, hpacket⟩ := send_of_respond h
  exact ⟨p, hp, responseArrives_of_packet hR hwf hclient hserver hg hb hpacket⟩

theorem repliesArrive (hR : R.LawfulPackets)
    (hwf : RoutingWellFormed actionName routing)
    (hclient : client.Routes routing) (hserver : server.Routes routing) :
    RepliesArrive R server client where
  acceptGoal net goal :=
    decisionArrives_respond hR hwf hclient hserver net goal _ _ _ _
  rejectGoal net goal :=
    decisionArrives_respond hR hwf hclient hserver net goal _ _ _ _
  acceptCancel net goal :=
    decisionArrives_respond hR hwf hclient hserver net goal _ _ _ _
  rejectCancel net goal :=
    decisionArrives_respond hR hwf hclient hserver net goal _ _ _ _
  feedback := by
    intro net goal p errorReply key data ok h
    obtain ⟨-, hg, b, hb, hpacket⟩ := send_of_sendFeedback h
    obtain ⟨r, hr, rfl, hdelivered⟩ := feedbackPacket_delivered hR hpacket
    rw [hserver.slotRouting_eq, ← hclient.slotRouting_eq] at hr
    rw [← hclient.slotRouting_eq] at hwf
    exact ⟨b, hb, feedbackArrives_of_delivered hwf hr rfl hg hdelivered⟩
  result := by
    intro net goal status p errorReply key data ok h
    obtain ⟨-, hg, b, hb, hpacket⟩ := send_of_complete h
    exact responseArrives_of_packet hR hwf hclient hserver hg hb hpacket

end RoundTrip

/-- The buffers that the endpoints made earlier for the application are sent
whenever the Goal allows the operation. -/
structure BuffersAccepted (R : PduRegistry)
    (madeBy client : ActionClientEndpointImpl)
    (madeAt server : ActionServerEndpointImpl) : Prop where
  goal : ∀ p, madeBy.createGoalBuffer R = some p →
    ∀ net now g timeoutUsec, isValidGoalId g = true →
      client.packetBindings.find? g = none → none ∈ client.slotOwners →
      ∃ key data,
        (client.sendGoalWithResult R net now p g timeoutUsec).effects =
          [.send key data (net key data)]
  feedback : ∀ p, madeAt.createFeedbackBuffer R = some p →
    ∀ net (goal : ServerGoalHandle) b, isValidGoalId goal.goalId = true →
      server.packetBindings.find? goal.goalId = some b →
      (b.state = .goalAccepted ∨ b.state = .cancelAccepted) →
      ∃ key data, (server.sendFeedback R net goal p).effects =
        [.send false key data (net key data)]
  result : ∀ p, madeAt.createResultBuffer R = some p →
    ∀ net (goal : ServerGoalHandle) b status,
      isValidGoalId goal.goalId = true →
      server.packetBindings.find? goal.goalId = some b →
      ActionServerEndpointImpl.mayComplete b status = true →
      ∃ key data, (server.complete R net goal status p).effects =
        [.commit goal.goalId status, .send false key data (net key data)]

/-- A client and a server endpoint of the same Action definition, each after any
inputs of its own: whatever one of them sends passes the checks of the other
one, shows the header that was written and carries the other bytes unchanged,
and the buffers they create are accepted. -/
theorem action_packets_round_trip {R : PduRegistry} (hR : R.LawfulPackets)
    {actionName : String} {actionConfig : Json}
    {client : ActionClientEndpointImpl} {server : ActionServerEndpointImpl}
    (hclient : ActionClientEndpointImpl.initializeEndpoint R
      { actionName := actionName } actionConfig = some client)
    (hserver : ActionServerEndpointImpl.initializeEndpoint R
      { actionName := actionName } actionConfig = some server)
    (earlier is : List ClientEndpointInput)
    (before js : List ServerEndpointInput) :
    RequestsArrive R ((clientEndpointMachine R).run client is)
        ((serverEndpointMachine R).run server js) ∧
      RepliesArrive R ((serverEndpointMachine R).run server js)
        ((clientEndpointMachine R).run client is) ∧
      BuffersAccepted R ((clientEndpointMachine R).run client earlier)
        ((clientEndpointMachine R).run client is)
        ((serverEndpointMachine R).run server before)
        ((serverEndpointMachine R).run server js) := by
  obtain ⟨definition, -, hparse, -⟩ :=
    ActionClientEndpointImpl.initializeEndpoint_ok hclient
  obtain ⟨routing, hrouting, hc⟩ :=
    ActionClientEndpointImpl.routes_run hparse hclient
  obtain ⟨routing', hrouting', hs⟩ :=
    ActionServerEndpointImpl.routes_run hparse hserver
  obtain rfl : routing = routing' := by
    rw [hrouting] at hrouting'
    exact Option.some.inj hrouting'
  have hwf := parseRouting_wellFormed hrouting
  have hsized := parseRouting_sized hrouting
  refine ⟨requestsArrive hR hwf (hc is) (hs js),
    repliesArrive hR hwf (hc is) (hs js), ?_, ?_, ?_⟩
  · intro p hp net now g timeoutUsec hg hnew hfree
    exact (hc is).sendGoal_accepts (hc earlier) hR hsized hp net now
      timeoutUsec hg hnew hfree
  · intro p hp net goal b hg hb hstate
    exact (hs js).sendFeedback_accepts (hs before) hR hsized hp net hg hb
      hstate
  · intro p hp net goal b status hg hb hstatus
    exact (hs js).complete_accepts (hs before) hR hsized hp net hg hb hstatus

/-! ### A session -/

/-- The Action of `config/sample/action.json` with two slots and small heaps. -/
def sampleAction : Json :=
  .object
    [("name", .string "fibonacci"),
     ("type", .string "sample_action_msgs/Fibonacci"),
     ("slotCount", .numberUnsigned 2),
     ("bufferHeap", .object
       [("requestSize", .numberUnsigned 16),
        ("responseSize", .numberUnsigned 16),
        ("feedbackSize", .numberUnsigned 16)]),
     ("clientEndpoint", .object [("nodeId", .string "fibonacci-client")]),
     ("serverEndpoint", .object [("nodeId", .string "fibonacci-server")])]

theorem sampleAction_client :
    (ActionClientEndpointImpl.initializeEndpoint sampleRegistry
      { actionName := "fibonacci" } sampleAction).isSome = true := by
  decide +kernel

theorem sampleAction_server :
    (ActionServerEndpointImpl.initializeEndpoint sampleRegistry
      { actionName := "fibonacci" } sampleAction).isSome = true := by
  decide +kernel

def sampleActionClient : ActionClientEndpointImpl := Option.get _ sampleAction_client

def sampleActionServer : ActionServerEndpointImpl := Option.get _ sampleAction_server

/-- What the client sends when it starts a Goal with a buffer of its own. -/
def sentGoal : List ClientEffect :=
  (sampleActionClient.sendGoalWithResult sampleRegistry (fun _ _ => true) 0
    ((sampleActionClient.createGoalBuffer sampleRegistry).getD []) sampleGoalId
    0).effects

/-- The server receives that Goal and accepts it. -/
def acceptsGoal : List ServerEndpointInput :=
  (sentGoal.map fun | .send key data _ => .receive key data) ++
    [.poll fun _ _ => true, .acceptGoal (fun _ _ => true) ⟨sampleGoalId⟩]

theorem sampleAction_round_trip :
    sentGoal.length = 1 ∧
      (ActionServerEndpointImpl.sendFeedback sampleRegistry (fun _ _ => true)
        ((serverEndpointMachine sampleRegistry).run sampleActionServer acceptsGoal)
        ⟨sampleGoalId⟩
        ((sampleActionServer.createFeedbackBuffer sampleRegistry).getD
          [])).effects.length = 1 ∧
      RequestsArrive sampleRegistry
        ((clientEndpointMachine sampleRegistry).run sampleActionClient [])
        ((serverEndpointMachine sampleRegistry).run sampleActionServer
          acceptsGoal) ∧
      RepliesArrive sampleRegistry
        ((serverEndpointMachine sampleRegistry).run sampleActionServer acceptsGoal)
        ((clientEndpointMachine sampleRegistry).run sampleActionClient []) ∧
      BuffersAccepted sampleRegistry
        ((clientEndpointMachine sampleRegistry).run sampleActionClient [])
        ((clientEndpointMachine sampleRegistry).run sampleActionClient [])
        ((serverEndpointMachine sampleRegistry).run sampleActionServer [])
        ((serverEndpointMachine sampleRegistry).run sampleActionServer
          acceptsGoal) :=
  ⟨by decide +kernel, by decide +kernel,
    action_packets_round_trip (layoutRegistry_lawfulPackets fun _ => some 24)
      (Option.some_get sampleAction_client).symm
      (Option.some_get sampleAction_server).symm [] [] [] acceptsGoal⟩

end HakoPduRpc.Action
