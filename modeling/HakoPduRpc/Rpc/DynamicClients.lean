import HakoPduRpc.Rpc.ServiceLayout

/-!
# Dynamic clients of an RPC server endpoint

A dynamic endpoint registers a client when the first request with its name
arrives, up to `maxClients`.  `step_cases` says what a step can do to the
registrations, and the statements about runs follow from it.

The second part is about opcodes.  `validate_header` of a dynamic endpoint
returns before the opcode is looked at, so a request with an invalid opcode
registers its client and starts a request, which it does not at a static
endpoint.
-/

namespace HakoPduRpc
namespace Rpc
namespace RpcServerEndpointImpl

open ServiceLayout

variable {C : RpcConvertors} {net : PduEndpoint} {s s' : RpcServerEndpointImpl}

/-! ## What a step does to the registrations -/

/-- The registrations are the same in both states. -/
structure SameClients (s s' : RpcServerEndpointImpl) : Prop where
  serviceName_eq : s'.serviceName = s.serviceName
  maxClients_eq : s'.maxClients = s.maxClients
  dynamicClient_eq : s'.dynamicClient = s.dynamicClient
  registeredClients_eq : s'.registeredClients = s.registeredClients
  isSome_status : ∀ c, (s'.status c).isSome = (s.status c).isSome

theorem SameClients.refl (s : RpcServerEndpointImpl) : SameClients s s :=
  ⟨rfl, rfl, rfl, rfl, fun _ => rfl⟩

theorem Writes.sameClients {clientName : String}
    (h : Writes s s' clientName) : SameClients s s' := by
  refine ⟨h.serviceName_eq, ?_, h.dynamicClient_eq, h.registeredClients_eq,
    h.isSome_status⟩
  obtain rfl | ⟨status, rfl⟩ := h <;> rfl

/-- The request header lets a dynamic endpoint register its client. -/
structure Registers (s : RpcServerEndpointImpl)
    (header : ServiceRequestHeader) : Prop where
  dynamicClient : s.dynamicClient = true
  serviceName_eq : header.serviceName = s.serviceName
  named : header.clientName ≠ ""
  unknown : s.status header.clientName = none
  room : s.registeredClients.length < s.maxClients

/-- The header check registers the client of the header, or changes nothing. -/
theorem validateHeader_registers (net : PduEndpoint)
    (s : RpcServerEndpointImpl) (header : ServiceRequestHeader) :
    (s.validateHeader net header).1 = s ∨
      s.validateHeader net header = (s.register header.clientName, true) ∧
        s.Registers header := by
  unfold validateHeader ensureDynamicClient
  split_ifs with hname hdynamic hempty hknown hfull hdefinition hregistered
    hopcode
  all_goals first
    | exact Or.inl rfl
    | exact Or.inr ⟨rfl, hdynamic, not_not.mp hname, hempty,
        by simpa using hknown, Nat.not_le.mp hfull⟩

/-- A dynamic endpoint lets every request of a known client pass. -/
theorem validateHeader_known {header : ServiceRequestHeader}
    (hdynamic : s.dynamicClient = true)
    (hservice : header.serviceName = s.serviceName)
    (hnamed : header.clientName ≠ "")
    (hknown : (s.status header.clientName).isSome = true) :
    s.validateHeader net header = (s, true) := by
  rw [validateHeader, if_neg (not_not_intro hservice), if_pos hdynamic,
    ensureDynamicClient, if_neg hnamed, if_pos hknown]

/-- A full dynamic endpoint refuses a client that it does not know. -/
theorem validateHeader_full {header : ServiceRequestHeader}
    (hdynamic : s.dynamicClient = true)
    (hservice : header.serviceName = s.serviceName)
    (hunknown : s.status header.clientName = none)
    (hfull : s.maxClients ≤ s.registeredClients.length) :
    s.validateHeader net header = (s, false) := by
  rw [validateHeader, if_neg (not_not_intro hservice), if_pos hdynamic,
    ensureDynamicClient]
  split_ifs with hempty hknown
  · rfl
  · simp [hunknown] at hknown
  · rfl

/-- A step keeps the registrations, unless it polls a request that registers
its client. -/
theorem step_cases (C : RpcConvertors) (s : RpcServerEndpointImpl)
    (i : Input) :
    SameClients s ((machine C).step s i).1 ∨
      ∃ net request pdu rest, i = .poll net request ∧
        s.pendingRequests = pdu :: rest ∧
        s.Registers (C.request.pdu2cpp pdu request.header) ∧
        SameClients
          (s.register (C.request.pdu2cpp pdu request.header).clientName)
          ((machine C).step s i).1 := by
  cases i with
  | receive pdu => exact Or.inl ⟨rfl, rfl, rfl, rfl, fun _ => rfl⟩
  | sendReply net clientName pdu =>
      exact Or.inl (sendReply_writes net s clientName pdu).sameClients
  | sendCancelReply net clientName pdu =>
      exact Or.inl (sendCancelReply_writes net s clientName pdu).sameClients
  | clearPendingRequests => exact Or.inl ⟨rfl, rfl, rfl, rfl, fun _ => rfl⟩
  | poll net request =>
      cases hqueue : s.pendingRequests with
      | nil =>
          change SameClients s (s.poll C net request).state ∨ _
          rw [poll_nil hqueue]
          exact Or.inl (.refl s)
      | cons pdu rest =>
          have hstep : ((machine C).step s (.poll net request)).1 =
              (s.poll C net request).state := rfl
          rw [hstep, poll_cons hqueue]
          have hwrites := (dispatch_writes C net { s with
            pendingRequests := rest } { request with
              pdu := pdu
              header := C.request.pdu2cpp pdu request.header }).sameClients
          obtain hsame | ⟨hregister, hregisters⟩ := validateHeader_registers net
            { s with pendingRequests := rest }
            (C.request.pdu2cpp pdu request.header)
          · rw [hsame] at hwrites
            exact Or.inl ⟨hwrites.serviceName_eq, hwrites.maxClients_eq,
              hwrites.dynamicClient_eq, hwrites.registeredClients_eq,
              hwrites.isSome_status⟩
          · rw [hregister] at hwrites
            refine Or.inr ⟨net, request, pdu, rest, rfl, rfl,
              ⟨hregisters.dynamicClient, hregisters.serviceName_eq,
                hregisters.named, hregisters.unknown, hregisters.room⟩, ?_⟩
            exact ⟨hwrites.serviceName_eq, hwrites.maxClients_eq,
              hwrites.dynamicClient_eq, hwrites.registeredClients_eq,
              hwrites.isSome_status⟩

/-! ## Registered clients -/

/-- The registered clients of a dynamic endpoint: distinct, named, the keys of
`server_states_`, and not more than the limit. -/
structure ClientsBounded (serviceName : String) (maxClients : ℕ)
    (s : RpcServerEndpointImpl) : Prop where
  serviceName_eq : s.serviceName = serviceName
  maxClients_eq : s.maxClients = maxClients
  dynamicClient : s.dynamicClient = true
  nodup : s.registeredClients.Nodup
  named : "" ∉ s.registeredClients
  keys : ∀ c, c ∈ s.registeredClients ↔ (s.status c).isSome = true
  bounded : s.registeredClients.length ≤ maxClients

section Bounded

variable {serviceName : String} {maxClients : ℕ}

theorem ClientsBounded.same (h : ClientsBounded serviceName maxClients s)
    (hsame : SameClients s s') : ClientsBounded serviceName maxClients s' := by
  obtain ⟨hservice, hmax, hdynamic, hregistered, hstatus⟩ := hsame
  refine ⟨hservice.trans h.serviceName_eq, hmax.trans h.maxClients_eq,
    hdynamic.trans h.dynamicClient, ?_, ?_, ?_, ?_⟩
  · rw [hregistered]
    exact h.nodup
  · rw [hregistered]
    exact h.named
  · intro c
    rw [hregistered, hstatus]
    exact h.keys c
  · rw [hregistered]
    exact h.bounded

theorem ClientsBounded.register (h : ClientsBounded serviceName maxClients s)
    {header : ServiceRequestHeader} (hregisters : s.Registers header) :
    ClientsBounded serviceName maxClients (s.register header.clientName) := by
  have hnew : header.clientName ∉ s.registeredClients := by
    rw [h.keys, hregisters.unknown]
    simp
  refine ⟨h.serviceName_eq, h.maxClients_eq, h.dynamicClient, ?_, ?_, ?_, ?_⟩
  · exact List.nodup_append.mpr ⟨h.nodup, List.nodup_singleton _, by
      intro a ha b hb
      rw [List.mem_singleton] at hb
      rintro rfl
      exact hnew (hb ▸ ha)⟩
  · rw [RpcServerEndpointImpl.register, List.mem_append, List.mem_singleton,
      not_or]
    exact ⟨h.named, hregisters.named.symm⟩
  · intro c
    rw [status_register, RpcServerEndpointImpl.register, List.mem_append,
      List.mem_singleton]
    by_cases hc : c = header.clientName
    · simp [hc]
    · simp [hc, h.keys]
  · have hroom := hregisters.room
    rw [h.maxClients_eq] at hroom
    rw [RpcServerEndpointImpl.register, List.length_append]
    exact hroom

theorem ClientsBounded.step (h : ClientsBounded serviceName maxClients s)
    (i : Input) :
    ClientsBounded serviceName maxClients ((machine C).step s i).1 := by
  obtain hsame | ⟨net, request, pdu, rest, -, -, hregisters, hsame⟩ :=
    step_cases C s i
  · exact h.same hsame
  · exact (h.register hregisters).same hsame

theorem clientsBounded_run (serviceName : String) {config : ServiceConfig}
    (hdynamic : config.dynamicClient = true) (clientNodeId : Option String)
    (is : List Input) :
    ClientsBounded serviceName config.maxClients
      ((machine C).run (initializeService serviceName config clientNodeId)
        is) := by
  refine (machine C).invariant (C := fun _ _ => True)
    (fun _ i _ h => h.step i) ?_
    ((machine C).along_of_forall (fun _ _ _ => trivial) _)
  unfold initializeService
  rw [if_pos hdynamic]
  exact ⟨rfl, rfl, hdynamic, List.nodup_nil, by simp, fun c => by
    simp [RpcServerEndpointImpl.status], Nat.zero_le _⟩

/-- The registered clients grow only at the end of their list. -/
theorem registeredClients_step (C : RpcConvertors) (s : RpcServerEndpointImpl)
    (i : Input) :
    ((machine C).step s i).1.registeredClients = s.registeredClients ∨
      ∃ net request pdu rest, i = .poll net request ∧
        s.pendingRequests = pdu :: rest ∧
        (C.request.pdu2cpp pdu request.header).serviceName = s.serviceName ∧
        ((machine C).step s i).1.registeredClients = s.registeredClients ++
          [(C.request.pdu2cpp pdu request.header).clientName] := by
  obtain hsame | ⟨net, request, pdu, rest, hi, hqueue, hregisters, hsame⟩ :=
    step_cases C s i
  · exact Or.inl hsame.registeredClients_eq
  · exact Or.inr ⟨net, request, pdu, rest, hi, hqueue,
      hregisters.serviceName_eq, hsame.registeredClients_eq⟩

theorem mem_registeredClients_run (C : RpcConvertors)
    {s : RpcServerEndpointImpl} {c : String} (h : c ∈ s.registeredClients)
    (is : List Input) : c ∈ ((machine C).run s is).registeredClients := by
  refine (machine C).invariant (C := fun _ _ => True)
    (I := fun s => c ∈ s.registeredClients) ?_ h
    ((machine C).along_of_forall (fun _ _ _ => trivial) _)
  intro s i _ hmem
  obtain hsame | ⟨_, _, _, _, -, -, -, hgrown⟩ := registeredClients_step C s i
  · rw [hsame]
    exact hmem
  · rw [hgrown]
    exact List.mem_append_left _ hmem

/-- The requests of a client reach the state machine of that client. -/
def Handles (C : RpcConvertors) (s : RpcServerEndpointImpl) (c : String) :
    Prop :=
  ∀ net request pdu rest, s.pendingRequests = pdu :: rest →
    ∀ header, header = C.request.pdu2cpp pdu request.header →
    header.serviceName = s.serviceName → header.clientName = c →
    ∃ status, s.status c = some status ∧
      s.poll C net request =
        if header.opcode = operationCancel then
          handleCancelRequest C net { s with pendingRequests := rest }
            { request with pdu := pdu, header := header } status
        else
          handleRequestIn C net { s with pendingRequests := rest }
            { request with pdu := pdu, header := header } status

/-- A request of a client that is refused by the limit is taken from the queue,
and that is all. -/
def RefusesAtLimit (C : RpcConvertors) (s : RpcServerEndpointImpl) : Prop :=
  ∀ net request pdu rest, s.pendingRequests = pdu :: rest →
    ∀ header, header = C.request.pdu2cpp pdu request.header →
    header.serviceName = s.serviceName →
    header.clientName ≠ "" → header.clientName ∉ s.registeredClients →
    s.maxClients ≤ s.registeredClients.length →
    s.poll C net request =
      { state := { s with pendingRequests := rest }
        result := (.none, { request with pdu := pdu, header := header })
        effects := [] }

theorem ClientsBounded.handles (h : ClientsBounded serviceName maxClients s)
    {c : String} (hc : c ∈ s.registeredClients) : Handles C s c := by
  intro net request pdu rest hqueue header hheader hservice hclient
  have hknown := (h.keys c).mp hc
  obtain ⟨status, hstatus⟩ := Option.isSome_iff_exists.mp hknown
  have hnamed : header.clientName ≠ "" := by
    intro hempty
    exact h.named (hempty ▸ hclient ▸ hc)
  have hcheck : validateHeader net { s with pendingRequests := rest } header =
      ({ s with pendingRequests := rest }, true) :=
    validateHeader_known h.dynamicClient hservice hnamed
      (by rw [hclient]; exact hknown)
  refine ⟨status, hstatus, ?_⟩
  have hfound : RpcServerEndpointImpl.status { s with pendingRequests := rest }
      header.clientName = some status := by
    rw [hclient]
    exact hstatus
  rw [poll_cons hqueue, ← hheader, dispatch, hcheck]
  simp only [hfound]

theorem ClientsBounded.refusesAtLimit
    (h : ClientsBounded serviceName maxClients s) : RefusesAtLimit C s := by
  intro net request pdu rest hqueue header hheader hservice hnamed hnew hfull
  have hunknown : s.status header.clientName = none := by
    rw [h.keys] at hnew
    simpa using hnew
  have hunknown' : RpcServerEndpointImpl.status { s with
      pendingRequests := rest } header.clientName = none := hunknown
  have hcheck : validateHeader net { s with pendingRequests := rest } header =
      ({ s with pendingRequests := rest }, false) :=
    validateHeader_full h.dynamicClient hservice hunknown' hfull
  rw [poll_cons hqueue, ← hheader, dispatch, hcheck]
  simp only [sendErrorReply, sendReply, hunknown']
  rfl

end Bounded

/-- Dynamic registration in every reachable state: the registered clients are
distinct, named, the keys of `server_states_` and within the limit; they are only
added to, by requests for this service; a registered client keeps its access to
the state machine; and the limit refuses a client without a trace. -/
theorem dynamic_clients_bounded {serviceName : String} {config : ServiceConfig}
    (hdynamic : config.dynamicClient = true) (clientNodeId : Option String)
    (is : List Input) {s : RpcServerEndpointImpl}
    (hs : s = (machine C).run
      (initializeService serviceName config clientNodeId) is) :
    ClientsBounded serviceName config.maxClients s ∧
      (∀ i, ((machine C).step s i).1.registeredClients =
            s.registeredClients ∨
          ∃ net request pdu rest, i = .poll net request ∧
            s.pendingRequests = pdu :: rest ∧
            (C.request.pdu2cpp pdu request.header).serviceName =
              serviceName ∧
            ((machine C).step s i).1.registeredClients =
              s.registeredClients ++
                [(C.request.pdu2cpp pdu request.header).clientName]) ∧
      (∀ c ∈ s.registeredClients, ∀ later,
        c ∈ ((machine C).run s later).registeredClients ∧
          Handles C ((machine C).run s later) c) ∧
      RefusesAtLimit C s := by
  subst hs
  have hbounded := clientsBounded_run (C := C) serviceName hdynamic
    clientNodeId is
  refine ⟨hbounded, ?_, ?_, hbounded.refusesAtLimit⟩
  · intro i
    have hstep := registeredClients_step C ((machine C).run
      (initializeService serviceName config clientNodeId) is) i
    rw [hbounded.serviceName_eq] at hstep
    exact hstep
  · intro c hc later
    have hmem := mem_registeredClients_run C hc later
    have hlater := clientsBounded_run (C := C) serviceName hdynamic
      clientNodeId (is ++ later)
    rw [Machine.run_append] at hlater
    exact ⟨hmem, hlater.handles hmem⟩

/-- A dynamic service for one client. -/
def dynamicConfig : ServiceConfig where
  maxClients := 1
  dynamicClient := true
  clients := []

theorem dynamic_clients_bounded_sample :
    ClientsBounded "Add" 1 ((machine layoutConvertors).run
        (initializeService "Add" dynamicConfig none)
        [.receive (servicePacket 1 0), .poll sampleNet emptyRequest]) ∧
      ((machine layoutConvertors).run
        (initializeService "Add" dynamicConfig none)
        [.receive (servicePacket 1 0),
          .poll sampleNet emptyRequest]).registeredClients = ["Client"] :=
  ⟨(@dynamic_clients_bounded layoutConvertors "Add" dynamicConfig rfl none _ _
    rfl).1, by decide +kernel⟩

/-! ## Invalid opcodes -/

/-- A polled request leaves no trace of itself: nothing is reported, nobody is
registered, and no client gets a request in flight. -/
structure Ignored (s : RpcServerEndpointImpl)
    (o : Outcome RpcServerEndpointImpl Sent (ServerEventType × RpcRequest)) :
    Prop where
  event : o.result.1 = .none
  registered : o.state.registeredClients = s.registeredClients
  states : ∀ c after, o.state.status c = some after → after.state ≠ .idle →
    ∃ before, s.status c = some before ∧ before.state = after.state

/-- When the missing check of the opcode does not show: the endpoint is static,
or the header is refused for another reason, or its client is busy. -/
def OpcodeHarmless (net : PduEndpoint) (s : RpcServerEndpointImpl)
    (header : ServiceRequestHeader) : Prop :=
  s.dynamicClient = true → header.serviceName = s.serviceName →
    header.clientName ≠ "" →
    match s.status header.clientName with
    | some status => status.state ≠ .idle
    | none => s.maxClients ≤ s.registeredClients.length ∨
        net.hasPduDefinition = false

theorem ignored_sendErrorReply (request : RpcRequest)
    (header : ServiceRequestHeader) (resultCode : Int32) :
    Ignored s (unreported request
      (s.sendErrorReply C net header resultCode)) := by
  refine ⟨rfl, (sendReply_writes net s _ _).registeredClients_eq, ?_⟩
  intro c after hafter hbusy
  have hstatus : (s.sendErrorReply C net header resultCode).state.status c =
      some after := hafter
  rw [sendErrorReply_status] at hstatus
  split_ifs at hstatus with hc
  · obtain ⟨before, -, rfl⟩ := Option.map_eq_some_iff.mp hstatus
    unfold ServerProcessingStatus.replied at hbusy
    split_ifs at hbusy with hidle
    · exact absurd hidle hbusy
    · exact absurd rfl hbusy
  · exact ⟨after, hstatus, rfl⟩

/-- A header that is refused is ignored. -/
theorem ignored_of_refused {request : RpcRequest}
    (h : s.validateHeader net request.header = (s, false)) :
    Ignored s (dispatch C net s request) := by
  rw [dispatch, h]
  exact ignored_sendErrorReply request request.header resultError

theorem opcode_ne_cancel {opcode : UInt8} (h : operationNum ≤ opcode) :
    opcode ≠ operationCancel := by
  rintro rfl
  exact absurd h (by decide)

/-- What a dynamic endpoint does with an invalid opcode of a client that it
knows: the request is taken for a new one. -/
theorem dispatch_known {request : RpcRequest} {status : ServerProcessingStatus}
    (hopcode : operationNum ≤ request.header.opcode)
    (hcheck : s.validateHeader net request.header = (s, true))
    (hstatus : s.status request.header.clientName = some status) :
    Ignored s (dispatch C net s request) ↔ status.state ≠ .idle := by
  have hdispatch : dispatch C net s request =
      s.handleRequestIn C net request status := by
    rw [dispatch, hcheck]
    simp only [hstatus, if_neg (opcode_ne_cancel hopcode)]
  rw [hdispatch, handleRequestIn]
  cases hstate : status.state with
  | idle =>
      constructor
      · intro hignored
        cases hignored.event
      · intro hidle
        exact absurd rfl hidle
  | running =>
      exact iff_of_true (ignored_sendErrorReply request request.header _)
        (by simp)
  | cancelling =>
      exact iff_of_true (ignored_sendErrorReply request request.header _)
        (by simp)

theorem dispatch_ignored_iff {request : RpcRequest}
    (hopcode : operationNum ≤ request.header.opcode) :
    Ignored s (dispatch C net s request) ↔
      OpcodeHarmless net s request.header := by
  by_cases hdynamic : s.dynamicClient = true
  swap
  · -- a static endpoint reaches the check of the opcode
    refine iff_of_true (ignored_of_refused ?_) fun h => absurd h hdynamic
    rw [validateHeader, if_neg hdynamic]
    split_ifs with hname hregistered
    · rfl
    · rfl
    · rfl
  by_cases hservice : request.header.serviceName = s.serviceName
  swap
  · refine iff_of_true (ignored_of_refused ?_) fun _ h => absurd h hservice
    rw [validateHeader, if_pos hservice]
  by_cases hnamed : request.header.clientName = ""
  · refine iff_of_true (ignored_of_refused ?_) fun _ _ h => absurd hnamed h
    rw [validateHeader, if_neg (not_not_intro hservice), if_pos hdynamic,
      ensureDynamicClient, if_pos hnamed]
  have hharmless : OpcodeHarmless net s request.header ↔
      match s.status request.header.clientName with
      | some status => status.state ≠ .idle
      | none => s.maxClients ≤ s.registeredClients.length ∨
          net.hasPduDefinition = false :=
    ⟨fun h => h hdynamic hservice hnamed, fun h _ _ _ => h⟩
  rw [hharmless]
  cases hstatus : s.status request.header.clientName with
  | some status =>
      exact dispatch_known hopcode (validateHeader_known hdynamic hservice
        hnamed (by rw [hstatus]; rfl)) hstatus
  | none =>
      have hcheck : s.validateHeader net request.header =
          if s.maxClients ≤ s.registeredClients.length ∨
            net.hasPduDefinition = false then (s, false)
          else (s.register request.header.clientName, true) := by
        rw [validateHeader, if_neg (not_not_intro hservice), if_pos hdynamic,
          ensureDynamicClient, if_neg hnamed, hstatus]
        cases hdefinition : net.hasPduDefinition <;> simp
      by_cases hrefused : s.maxClients ≤ s.registeredClients.length ∨
          net.hasPduDefinition = false
      · rw [if_pos hrefused] at hcheck
        exact iff_of_true (ignored_of_refused hcheck) hrefused
      · rw [if_neg hrefused] at hcheck
        refine iff_of_false ?_ hrefused
        intro hignored
        have hgrown := (dispatch_writes C net s request).registeredClients_eq
        rw [hcheck, hignored.registered] at hgrown
        have hlength := congrArg List.length hgrown
        simp [register] at hlength

/-- The verdicts of a static and of a dynamic endpoint about a client that both
have registered. -/
theorem verdicts_agree_iff {d : RpcServerEndpointImpl} {net' : PduEndpoint}
    {serviceName : String} {maxClients : ℕ} {header : ServiceRequestHeader}
    (hd : ClientsBounded serviceName maxClients d)
    (hstatic : s.dynamicClient = false) (hservice : s.serviceName = serviceName)
    (hclient : header.clientName ∈ s.registeredClients)
    (hclient' : header.clientName ∈ d.registeredClients) :
    (s.validateHeader net header).2 = (d.validateHeader net' header).2 ↔
      header.opcode < operationNum ∨ header.serviceName ≠ serviceName := by
  by_cases hname : header.serviceName = serviceName
  swap
  · refine iff_of_true ?_ (Or.inr hname)
    rw [validateHeader, validateHeader, if_pos (by rw [hservice]; exact hname),
      if_pos (by rw [hd.serviceName_eq]; exact hname)]
  have hdynamic : d.validateHeader net' header = (d, true) :=
    validateHeader_known hd.dynamicClient (hname.trans hd.serviceName_eq.symm)
      (fun hempty => hd.named (hempty ▸ hclient')) ((hd.keys _).mp hclient')
  rw [hdynamic, validateHeader,
    if_neg (not_not_intro (hname.trans hservice.symm)),
    if_neg (by rw [hstatic]; simp), if_neg (not_not_intro hclient)]
  by_cases hopcode : header.opcode < operationNum
  · rw [if_neg (UInt8.not_le.mpr hopcode)]
    simp [hopcode]
  · rw [if_pos (UInt8.not_lt.mp hopcode)]
    simp [hopcode, hname]

/-- A request with an invalid opcode is ignored exactly if it is harmless, in
every state and mode; and a static and a dynamic endpoint judge the request of a
client that both have registered alike exactly if its opcode is valid, or it is
for another service. -/
theorem invalid_opcodes_ignored_iff (C : RpcConvertors) :
    (∀ (s : RpcServerEndpointImpl) net request pdu rest header,
      s.pendingRequests = pdu :: rest →
      header = C.request.pdu2cpp pdu request.header →
      operationNum ≤ header.opcode →
      (Ignored s (s.poll C net request) ↔ OpcodeHarmless net s header)) ∧
    ∀ serviceName config clientNodeId is (s d : RpcServerEndpointImpl)
      net net' header,
      config.dynamicClient = true →
      d = (machine C).run
        (initializeService serviceName config clientNodeId) is →
      s.dynamicClient = false → s.serviceName = serviceName →
      header.clientName ∈ s.registeredClients →
      header.clientName ∈ d.registeredClients →
      ((s.validateHeader net header).2 = (d.validateHeader net' header).2 ↔
        header.opcode < operationNum ∨ header.serviceName ≠ serviceName) := by
  constructor
  · intro s net request pdu rest header hqueue hheader hopcode
    have hdispatch : Ignored { s with pendingRequests := rest }
        (dispatch C net { s with pendingRequests := rest }
          { request with pdu := pdu, header := header }) ↔
        OpcodeHarmless net { s with pendingRequests := rest } header :=
      dispatch_ignored_iff hopcode
    rw [poll_cons hqueue, ← hheader]
    exact ⟨fun h => hdispatch.mp ⟨h.event, h.registered, h.states⟩,
      fun h => ⟨(hdispatch.mpr h).event, (hdispatch.mpr h).registered,
        (hdispatch.mpr h).states⟩⟩
  · intro serviceName config clientNodeId is s d net net' header hdynamic hd
      hstatic hservice hclient hclient'
    subst hd
    exact verdicts_agree_iff (clientsBounded_run serviceName hdynamic
      clientNodeId is) hstatic hservice hclient hclient'

/-- A dynamic endpoint that has received a request with opcode `7`. -/
def oddRequest : RpcServerEndpointImpl :=
  (initializeService "Add" dynamicConfig none).putPendingRequest
    (servicePacket 1 7)

/-- A static endpoint ignores the request. -/
theorem invalid_opcodes_ignored_static :
    Ignored
      ((initializeService "Add" serviceConfig none).putPendingRequest
        (servicePacket 1 7))
      (((initializeService "Add" serviceConfig none).putPendingRequest
        (servicePacket 1 7)).poll layoutConvertors sampleNet
          emptyRequest) := by
  have hopcode : operationNum ≤ (layoutConvertors.request.pdu2cpp
      (servicePacket 1 7) emptyRequest.header).opcode := by decide +kernel
  have hstatic : ((initializeService "Add" serviceConfig
      none).putPendingRequest (servicePacket 1 7)).dynamicClient = false := by
    decide +kernel
  apply ((invalid_opcodes_ignored_iff layoutConvertors).1 _ sampleNet
    emptyRequest (servicePacket 1 7) [] _ rfl rfl hopcode).mpr
  intro hdynamic
  rw [hstatic] at hdynamic
  cases hdynamic

/-- The dynamic endpoint reports it as a new request, registers its client and
is `RUNNING` for it. -/
theorem oddRequest_dispatched :
    operationNum ≤ (layoutConvertors.request.pdu2cpp (servicePacket 1 7)
        emptyRequest.header).opcode ∧
      oddRequest.pendingRequests = [servicePacket 1 7] ∧
      (oddRequest.poll layoutConvertors sampleNet emptyRequest).result.1 =
        .requestIn ∧
      (oddRequest.poll layoutConvertors sampleNet
        emptyRequest).state.registeredClients = ["Client"] ∧
      (oddRequest.poll layoutConvertors sampleNet emptyRequest).state.status
        "Client" = some ⟨1, .running⟩ ∧
      ¬Ignored oddRequest
        (oddRequest.poll layoutConvertors sampleNet emptyRequest) := by
  have hevent : (oddRequest.poll layoutConvertors sampleNet
      emptyRequest).result.1 = .requestIn := by decide +kernel
  refine ⟨by decide +kernel, rfl, hevent, by decide +kernel,
    by decide +kernel, ?_⟩
  intro hignored
  rw [hignored.event] at hevent
  cases hevent

end RpcServerEndpointImpl
end Rpc
end HakoPduRpc
