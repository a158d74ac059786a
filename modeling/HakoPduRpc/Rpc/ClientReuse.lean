import HakoPduRpc.Lib.Observer
import HakoPduRpc.Rpc.CallAsync
import HakoPduRpc.Rpc.ResponseRace

/-!
# Using a Python client again

When its worker is done the client releases its lock, whatever state the
endpoint of the service is in.  A worker that gives up a request in flight
leaves the endpoint busy, and the next call is refused.

`Owned` is the invariant of the runs in which this does not happen: a request in
flight belongs to the worker, and carries an id that the request before it did
not.  There is one lemma for each stage of the worker.
-/

namespace HakoPduRpc
namespace Rpc

/-! ## One poll while one service has a request in flight -/

namespace RpcClientEndpointImpl

/-- No request was started from the first state to the second, and a request that
was cancelled is not running again. -/
structure Continues (e e' : RpcClientEndpointImpl) : Prop where
  busy : e'.clientState.state ≠ .idle → e.clientState.state ≠ .idle
  requestId_eq : e'.clientState.state ≠ .idle →
    e'.clientState.requestId = e.clientState.requestId
  running : e'.clientState.state = .running → e.clientState.state = .running

variable {C : RpcConvertors} {e e' : RpcClientEndpointImpl}

theorem Continues.of_clientState_eq (h : e'.clientState = e.clientState) :
    Continues e e' := by
  refine ⟨?_, ?_, ?_⟩ <;> rw [h]
  · exact id
  · intro _
    rfl
  · exact id

theorem Continues.of_idle (h : e'.clientState.state = .idle) :
    Continues e e' := by
  refine ⟨fun hbusy => absurd h hbusy, fun hbusy => absurd h hbusy, ?_⟩
  intro hrunning
  rw [h] at hrunning
  cases hrunning

theorem Continues.refl (e : RpcClientEndpointImpl) : Continues e e :=
  .of_clientState_eq rfl

theorem Continues.poll (now : UInt64) (e : RpcClientEndpointImpl)
    (response : RpcResponse) : Continues e (e.poll C now response).1 := by
  rcases poll_state C now e response with hsame | hidle
  · rw [hsame]
    exact .refl e
  · exact .of_idle hidle

theorem Continues.sendCancelRequest (net : PduEndpoint)
    (e : RpcClientEndpointImpl) :
    Continues e (e.sendCancelRequest C net).state := by
  rcases sendCancelRequest_cases C net e with
    ⟨-, hsend⟩ | ⟨-, -, hsend⟩ | ⟨hrunning, -, hsend⟩
  · rw [hsend]
    exact .refl e
  · rw [hsend]
    exact .refl e
  · rw [hsend]
    refine ⟨?_, fun _ => rfl, ?_⟩
    · rw [hrunning]
      intro _ hstate
      cases hstate
    · intro hstate
      cases hstate

theorem poll_of_idle (hidle : e.clientState.state = .idle) (now : UInt64)
    (response : RpcResponse) :
    e.poll C now response = (e, .none, response) := by
  simp [poll, hidle]

end RpcClientEndpointImpl

namespace RpcServicesClient

open RpcClientEndpointImpl

variable {C : RpcConvertors} {name : String}
  {endpoint : RpcClientEndpointImpl}
  {l : List (String × RpcClientEndpointImpl)}

theorem pollEndpoints_of_idle (C : RpcConvertors) (now : String → UInt64)
    (h : ∀ e ∈ l, e.2.clientState.state = .idle) (response : RpcResponse) :
    pollEndpoints C now l response = (l, none, response) := by
  induction l with
  | nil => rfl
  | cons e rest ih =>
      obtain ⟨hhead, hrest⟩ := List.forall_mem_cons.mp h
      simp [pollEndpoints, poll_of_idle hhead, ih hrest]

/-- When the other services are idle, `poll` is that of one endpoint. -/
theorem pollEndpoints_of_idle_others (C : RpcConvertors)
    (now : String → UInt64) (hnodup : (l.map Prod.fst).Nodup)
    (hmem : (name, endpoint) ∈ l)
    (hidle : ∀ e ∈ l, e.1 ≠ name → e.2.clientState.state = .idle)
    (response : RpcResponse) :
    let polled := endpoint.poll C (now name) response
    pollEndpoints C now l response =
      (l.map fun e => (e.1, if e.1 = name then polled.1 else e.2),
        if polled.2.1 = .none then none else some (name, polled.2.1),
        polled.2.2) := by
  intro polled
  induction l with
  | nil => cases hmem
  | cons e rest ih =>
      obtain ⟨name', endpoint'⟩ := e
      rw [List.map_cons, List.nodup_cons] at hnodup
      obtain ⟨hidle', hrest⟩ := List.forall_mem_cons.mp hidle
      rw [pollEndpoints]
      dsimp only
      rcases List.mem_cons.mp hmem with heq | hmem
      · obtain ⟨rfl, rfl⟩ := Prod.mk.inj heq
        have hothers : ∀ e ∈ rest, e.1 ≠ name := by
          intro e he hname
          exact hnodup.1 (List.mem_map.mpr ⟨e, he, hname⟩)
        have hmap : (rest.map fun e =>
            (e.1, if e.1 = name then polled.1 else e.2)) = rest := by
          calc
            _ = rest.map id := by
              apply List.map_congr_left
              intro e he
              simp [hothers e he]
            _ = rest := List.map_id rest
        have hquiet := pollEndpoints_of_idle C now
          (fun e he => hrest e he (hothers e he)) polled.2.2
        rw [List.map_cons, hmap, if_pos rfl]
        by_cases hevent : polled.2.1 = .none
        · rw [if_neg (not_not_intro hevent), if_pos hevent, hquiet]
        · rw [if_pos hevent, if_neg hevent]
      · have hne : name' ≠ name := by
          intro hname
          exact hnodup.1 (List.mem_map.mpr ⟨_, hmem, hname.symm⟩)
        rw [poll_of_idle (hidle' hne), if_neg (not_not_intro rfl),
          ih hnodup.2 hmem hrest, List.map_cons, if_neg hne]

theorem poll_of_idle_others {s : RpcServicesClient}
    (hfind : s.rpcEndpoints.find? name = some endpoint)
    (hidle : ∀ name' endpoint', name' ≠ name →
      s.rpcEndpoints.find? name' = some endpoint' →
      endpoint'.clientState.state = .idle)
    (now : String → UInt64) (response : RpcResponse) :
    let polled := endpoint.poll C (now name) response
    s.poll C now response =
      (⟨s.rpcEndpoints.modify name fun _ => polled.1⟩,
        if polled.2.1 = .none then none else some (name, polled.2.1),
        polled.2.2) := by
  intro polled
  have hpoll := pollEndpoints_of_idle_others C now
    s.rpcEndpoints.nodup_keys (OrdMap.mem_entries_iff.mpr hfind)
    (fun e he hne => hidle e.1 e.2 hne (OrdMap.mem_entries_iff.mp he)) response
  simp only [poll, OrdMap.replaceValues, OrdMap.modify, hpoll]
  rfl

end RpcServicesClient

namespace RpcClient

/-! ## The condition and the property -/

section Conditions

variable (C : RpcConvertors)

def sentRequests (obs : List CallObs) : List SentRequest :=
  obs.filterMap fun
    | .sent request => some request
    | _ => none

/-- The requests sent, the latest one first. -/
def record (s : RpcClient) (i : Input) (sent : List SentRequest) :
    List SentRequest :=
  sentRequests ((machine C).step s i).2 ++ sent

/-- The client with the requests that it has sent. -/
def recordingMachine :
    Machine (RpcClient × List SentRequest) Input CallObs :=
  (machine C).recording (record C)

/-- The id is none of those under which the last request of the service was
sent. -/
def Fresh (sent : List SentRequest) (serviceName : String) (id : UInt32) :
    Prop :=
  ∀ previous ∈ sent.find? (·.serviceName = cString serviceName),
    id ≠ previous.packetId ∧ id ≠ previous.trackedId

/-- The endpoint is idle, and the next call of the service is sent when the
transport takes its packet. -/
structure Free (s : RpcClient) (serviceName : String)
    (endpoint : RpcClientEndpointImpl) : Prop where
  idle : endpoint.clientState.state = .idle
  sends : ∀ (call : CallArguments) (env : WorkEnv),
    call.serviceName = serviceName → cString serviceName ≠ "" →
    s.started = true → 0 ≤ call.timeoutUsec →
    call.timeoutUsec < 18446744073709551616 →
    env.net.send endpoint.requestKey call.pdu = true →
    ∃ request, (machine C).trace s [.callAsync call, .work env] =
      [.sent request]

/-- The service of a call that is completed is free, and a response that the
call returns does not carry an id of the request before. -/
structure Released (sent : List SentRequest) (s : RpcClient)
    (serviceName : String) (outcome : Except CallError PduData) : Prop where
  free : ∀ endpoint ∈ s.endpoint? serviceName, Free C s serviceName endpoint
  own : ∀ pdu, outcome = .ok pdu →
    Fresh sent.tail serviceName
      (RpcClientEndpointImpl.readResponse C pdu).requestId

/-- Whenever the lock is released and the future completed, the client can be
used again. -/
def Reusable (s : RpcClient × List SentRequest) (i : Input) : Prop :=
  ∀ serviceName outcome,
    .completed serviceName outcome ∈ ((recordingMachine C).step s i).2 →
    Released C s.2 ((recordingMachine C).step s i).1.1 serviceName outcome

/-- The name of the service comes back as it was given. -/
def NameReturned (serviceName : String) : Prop :=
  returnedName (copyName (cString serviceName)) = serviceName.toUTF8.toList

/-- What a step of the worker must meet, given the endpoint of its service. -/
def SettlesStage (sent : List SentRequest) (w : Worker) (env : WorkEnv)
    (endpoint : RpcClientEndpointImpl) : Prop :=
  let now := env.now (cString w.call.serviceName)
  match w.stage with
  | .sendWhenConnected =>
      Fresh sent w.call.serviceName endpoint.currentRequestId.toUInt32
  | .callImpl =>
      endpoint.clientState.state ≠ .idle →
        env.expired = false ∧
        (endpoint.timedOut now = true →
          w.call.cancelOnTimeout = true ∧ NameReturned w.call.serviceName) ∧
        (endpoint.timedOut now = false → endpoint.taken C now = none →
          env.slept = true)
  | .cancelOnTimeout =>
      endpoint.clientState.state ≠ .idle →
        endpoint.clientState.state = .running ∧
        env.net.send endpoint.requestKey (endpoint.cancelBuffer C env.net) =
          true
  | .waitAfterTimeout =>
      endpoint.clientState.state ≠ .idle →
        env.expired = false ∧
        (endpoint.taken C now = none → env.slept = true)

/-- The worker does not give up a request that is in flight, and sends none
under an id of the request before. -/
def Settles (s : RpcClient × List SentRequest) : Input → Prop
  | .work env =>
      ∀ w ∈ s.1.inflight, ∀ endpoint ∈ s.1.endpoint? w.call.serviceName,
        SettlesStage C s.2 w env endpoint
  | _ => True

instance decidableFresh (sent : List SentRequest) (serviceName : String)
    (id : UInt32) : Decidable (Fresh sent serviceName id) :=
  inferInstanceAs (Decidable (∀ previous ∈ sent.find? _, _))

instance decidableNameReturned (serviceName : String) :
    Decidable (NameReturned serviceName) :=
  inferInstanceAs (Decidable (_ = _))

instance decidableSettlesStage (sent : List SentRequest) (env : WorkEnv)
    (endpoint : RpcClientEndpointImpl) :
    (w : Worker) → Decidable (SettlesStage C sent w env endpoint)
  | ⟨_, .sendWhenConnected⟩ => inferInstanceAs (Decidable (Fresh ..))
  | ⟨_, .callImpl⟩ =>
      inferInstanceAs (Decidable (_ → _ ∧ (_ → _) ∧ (_ → _ → _)))
  | ⟨_, .cancelOnTimeout⟩ => inferInstanceAs (Decidable (_ → _ ∧ _))
  | ⟨_, .waitAfterTimeout⟩ => inferInstanceAs (Decidable (_ → _ ∧ (_ → _)))

instance decidableSettles (s : RpcClient × List SentRequest) :
    (i : Input) → Decidable (Settles C s i)
  | .work _ => inferInstanceAs (Decidable (∀ w ∈ s.1.inflight, _))
  | .start _ => isTrue trivial
  | .createRequestBuffer .. => isTrue trivial
  | .callAsync _ => isTrue trivial
  | .cancel .. => isTrue trivial
  | .receive .. => isTrue trivial

end Conditions

/-! ## The invariant -/

section Invariant

variable {C : RpcConvertors} {s s' : RpcClient} {sent : List SentRequest}
  {w : Worker} {env : WorkEnv} {endpoint : RpcClientEndpointImpl}

/-- The endpoints go on from the first state to the second. -/
def Continues (s s' : RpcClient) : Prop :=
  ∀ name, Option.Rel RpcClientEndpointImpl.Continues
    (s.client.rpc.rpcEndpoints.find? name)
    (s'.client.rpc.rpcEndpoints.find? name)

/-- No service has a request in flight. -/
def AllIdle (s : RpcClient) : Prop :=
  ∀ name endpoint, s.client.rpc.rpcEndpoints.find? name = some endpoint →
    endpoint.clientState.state = .idle

/-- The worker has sent its request: the endpoint of its service, the request,
and the requests before. -/
structure InFlight (s : RpcClient) (w : Worker)
    (endpoint : RpcClientEndpointImpl) (request : SentRequest)
    (earlier : List SentRequest) : Prop where
  started : s.started = true
  named : cString w.call.serviceName ≠ ""
  found : s.endpoint? w.call.serviceName = some endpoint
  tracked : endpoint.clientState.state ≠ .idle →
    endpoint.clientState.requestId = request.trackedId
  cancelled : w.stage = .waitAfterTimeout →
    endpoint.clientState.state ≠ .running
  fresh : Fresh earlier w.call.serviceName request.trackedId

/-- A request in flight is that of the worker. -/
structure Owned (s : RpcClient) (sent : List SentRequest) : Prop where
  idle : ∀ name endpoint,
    s.client.rpc.rpcEndpoints.find? name = some endpoint →
    (∀ w ∈ s.inflight, w.stage ≠ .sendWhenConnected →
      name ≠ cString w.call.serviceName) →
    endpoint.clientState.state = .idle
  inflight : ∀ w ∈ s.inflight, w.stage ≠ .sendWhenConnected →
    ∃ endpoint request earlier, sent = request :: earlier ∧
      InFlight s w endpoint request earlier

theorem Owned.allIdle (h : Owned s sent) (hw : s.inflight = some w)
    (hstage : w.stage = .sendWhenConnected) : AllIdle s := by
  intro name endpoint hfind
  apply h.idle name endpoint hfind
  intro w' hw' hstage'
  obtain rfl : w = w' := Option.some.inj (hw.symm.trans hw')
  exact absurd hstage hstage'

theorem Owned.others (h : Owned s sent) (hw : s.inflight = some w)
    (name : String) (endpoint : RpcClientEndpointImpl)
    (hne : name ≠ cString w.call.serviceName)
    (hfind : s.client.rpc.rpcEndpoints.find? name = some endpoint) :
    endpoint.clientState.state = .idle := by
  apply h.idle name endpoint hfind
  intro w' hw' _
  obtain rfl : w = w' := Option.some.inj (hw.symm.trans hw')
  exact hne

theorem AllIdle.owned (h : AllIdle s) (sent : List SentRequest)
    (hstage : ∀ w ∈ s.inflight, w.stage = .sendWhenConnected) :
    Owned s sent := by
  constructor
  · intro name endpoint hfind _
    exact h name endpoint hfind
  · intro w hw hsent
    exact absurd (hstage w hw) hsent

theorem Continues.exists_before (h : Continues s s') {name : String}
    {endpoint' : RpcClientEndpointImpl}
    (hfind : s'.client.rpc.rpcEndpoints.find? name = some endpoint') :
    ∃ endpoint, s.client.rpc.rpcEndpoints.find? name = some endpoint ∧
      RpcClientEndpointImpl.Continues endpoint endpoint' := by
  have hrel := h name
  rw [hfind] at hrel
  generalize s.client.rpc.rpcEndpoints.find? name = found at hrel
  cases hrel with
  | some hcontinues => exact ⟨_, rfl, hcontinues⟩

theorem Continues.exists_after (h : Continues s s') {name : String}
    (hfind : s.client.rpc.rpcEndpoints.find? name = some endpoint) :
    ∃ endpoint', s'.client.rpc.rpcEndpoints.find? name = some endpoint' ∧
      RpcClientEndpointImpl.Continues endpoint endpoint' := by
  have hrel := h name
  rw [hfind] at hrel
  generalize s'.client.rpc.rpcEndpoints.find? name = found at hrel
  cases hrel with
  | some hcontinues => exact ⟨_, rfl, hcontinues⟩

theorem Continues.allIdle (h : Continues s s') (hidle : AllIdle s) :
    AllIdle s' := by
  intro name endpoint' hfind'
  obtain ⟨endpoint, hfind, hkeeps⟩ := h.exists_before hfind'
  by_contra hbusy
  exact hkeeps.busy hbusy (hidle name endpoint hfind)

theorem Owned.allIdle_of_endpoint (h : Owned s sent)
    (hw : s.inflight = some w)
    (hfind : s.endpoint? w.call.serviceName = some endpoint)
    (hidle : endpoint.clientState.state = .idle) : AllIdle s := by
  intro name endpoint' hfind'
  by_cases hname : name = cString w.call.serviceName
  · rw [hname] at hfind'
    obtain rfl : endpoint = endpoint' :=
      Option.some.inj (hfind.symm.trans hfind')
    exact hidle
  · exact h.others hw name endpoint' hname hfind'

/-- A step that starts no request keeps the invariant. -/
theorem Owned.continues (h : Owned s sent) (hcontinues : Continues s s')
    (hinflight : s'.inflight = s.inflight)
    (hstarted : s.started = true → s'.started = true) : Owned s' sent := by
  constructor
  · intro name endpoint' hfind' hfree
    obtain ⟨endpoint, hfind, hkeeps⟩ := hcontinues.exists_before hfind'
    rw [hinflight] at hfree
    by_contra hbusy
    exact hkeeps.busy hbusy (h.idle name endpoint hfind hfree)
  · intro w hw hstage
    rw [hinflight] at hw
    obtain ⟨endpoint, request, earlier, rfl, hflight⟩ := h.inflight w hw hstage
    obtain ⟨endpoint', hfind', hkeeps⟩ :=
      hcontinues.exists_after hflight.found
    refine ⟨endpoint', request, earlier, rfl, ?_⟩
    exact
      { started := hstarted hflight.started
        named := hflight.named
        found := hfind'
        tracked := fun hbusy => (hkeeps.requestId_eq hbusy).trans
          (hflight.tracked (hkeeps.busy hbusy))
        cancelled := fun hwait hrunning =>
          hflight.cancelled hwait (hkeeps.running hrunning)
        fresh := hflight.fresh }

theorem continues_refl (s : RpcClient) : Continues s s := by
  intro name
  cases s.client.rpc.rpcEndpoints.find? name with
  | none => exact .none
  | some endpoint => exact .some (.refl endpoint)

theorem continues_modify {name : String}
    {f : RpcClientEndpointImpl → RpcClientEndpointImpl}
    (h : ∀ endpoint, s.client.rpc.rpcEndpoints.find? name = some endpoint →
      RpcClientEndpointImpl.Continues endpoint (f endpoint)) :
    Continues s (s.setRpc ⟨s.client.rpc.rpcEndpoints.modify name f⟩) := by
  intro name'
  change Option.Rel _ (s.client.rpc.rpcEndpoints.find? name')
    ((s.client.rpc.rpcEndpoints.modify name f).find? name')
  rw [OrdMap.find?_modify]
  split_ifs with hname
  · rw [hname]
    cases hfind : s.client.rpc.rpcEndpoints.find? name with
    | none => exact .none
    | some endpoint => exact .some (h endpoint hfind)
  · exact continues_refl s name'

theorem continues_set {name : String} {endpoint' : RpcClientEndpointImpl}
    (hfind : s.client.rpc.rpcEndpoints.find? name = some endpoint)
    (h : RpcClientEndpointImpl.Continues endpoint endpoint') :
    Continues s
      (s.setRpc ⟨s.client.rpc.rpcEndpoints.modify name fun _ => endpoint'⟩) := by
  apply continues_modify
  intro found hfound
  obtain rfl : endpoint = found := Option.some.inj (hfind.symm.trans hfound)
  exact h

end Invariant

/-! ## Steps of the worker -/

section Steps

variable {C : RpcConvertors} {s s' : RpcClient} {sent : List SentRequest}
  {w : Worker} {env : WorkEnv} {endpoint : RpcClientEndpointImpl}

/-- A turn, when no other service has a request in flight. -/
theorem turn_eq (C : RpcConvertors) (env : WorkEnv)
    (hstarted : s.started = true)
    (hfind : s.endpoint? w.call.serviceName = some endpoint)
    (hothers : ∀ name endpoint', name ≠ cString w.call.serviceName →
      s.client.rpc.rpcEndpoints.find? name = some endpoint' →
      endpoint'.clientState.state = .idle) :
    let polled := endpoint.poll C (env.now (cString w.call.serviceName))
      ⟨RpcClientEndpointImpl.blankHeader, []⟩
    let name := returnedName (copyName (cString w.call.serviceName))
    s.turn C w env =
      (s.setRpc ⟨s.client.rpc.rpcEndpoints.modify
          (cString w.call.serviceName) fun _ => polled.1⟩,
        if polled.2.1 = .none then
          if env.slept then .again else .raised .sleep
        else if (Delivery.allocate env.allocated).deliver polled.2.2.pdu ≠ .ok
          then .raised .native
        else if name ≠ w.call.serviceName.toUTF8.toList then
          .raised (.unexpectedService name)
        else .event polled.2.1 polled.2.2.pdu) := by
  intro polled name
  have hpoll := RpcServicesClient.poll_of_idle_others (C := C) hfind hothers
    env.now ⟨RpcClientEndpointImpl.blankHeader, []⟩
  simp only [turn, poll, hstarted, RpcClientHandle.reported, hpoll]
  by_cases hevent : polled.2.1 = .none
  · simp [polled, hevent, Reporting.finish]
  · by_cases hdeliver :
        (Delivery.allocate env.allocated).deliver polled.2.2.pdu = .ok
    · by_cases hname : name = w.call.serviceName.toUTF8.toList
      · simp_all [Reporting.finish, polled, name, clientReporting,
          Reporting.returned]
      · simp_all [Reporting.finish, polled, name, clientReporting,
          Reporting.returned]
    · simp_all [Reporting.finish, polled, clientReporting]

/-- What a turn can come to, given the endpoint before and after it. -/
inductive TurnCase (C : RpcConvertors) (w : Worker) (env : WorkEnv)
    (endpoint endpoint' : RpcClientEndpointImpl) : Turn → Prop
  | again : TurnCase C w env endpoint endpoint' .again
  | freed {error : CallError} :
      endpoint'.clientState.state = .idle →
      TurnCase C w env endpoint endpoint' (.raised error)
  | wakeless {error : CallError} :
      endpoint.timedOut (env.now (cString w.call.serviceName)) = false →
      endpoint.taken C (env.now (cString w.call.serviceName)) = none →
      env.slept = false → TurnCase C w env endpoint endpoint' (.raised error)
  | misnamed {error : CallError} :
      endpoint.timedOut (env.now (cString w.call.serviceName)) = true →
      ¬NameReturned w.call.serviceName →
      TurnCase C w env endpoint endpoint' (.raised error)
  | timeout {pdu : PduData} :
      endpoint.timedOut (env.now (cString w.call.serviceName)) = true →
      TurnCase C w env endpoint endpoint' (.event .responseTimeout pdu)
  | ended {event : ClientEventType} {pdu : PduData} :
      RpcClientEndpointImpl.Terminal event →
      endpoint.clientState.state ≠ .idle →
      endpoint'.clientState.state = .idle →
      (RpcClientEndpointImpl.readResponse C pdu).requestId =
        endpoint.clientState.requestId →
      TurnCase C w env endpoint endpoint' (.event event pdu)

theorem turn_cases (C : RpcConvertors) (env : WorkEnv)
    (hstarted : s.started = true)
    (hfind : s.endpoint? w.call.serviceName = some endpoint)
    (hothers : ∀ name endpoint', name ≠ cString w.call.serviceName →
      s.client.rpc.rpcEndpoints.find? name = some endpoint' →
      endpoint'.clientState.state = .idle) :
    ∃ endpoint', RpcClientEndpointImpl.Continues endpoint endpoint' ∧
      (s.turn C w env).1 = s.setRpc ⟨s.client.rpc.rpcEndpoints.modify
        (cString w.call.serviceName) fun _ => endpoint'⟩ ∧
      TurnCase C w env endpoint endpoint' (s.turn C w env).2 := by
  have hturn := turn_eq C env hstarted hfind hothers
  dsimp only at hturn
  rw [hturn]
  refine ⟨_, .poll _ _ _, rfl, ?_⟩
  dsimp only
  set now := env.now (cString w.call.serviceName)
  rcases RpcClientEndpointImpl.poll_cases C now endpoint
      ⟨RpcClientEndpointImpl.blankHeader, []⟩ with
    ⟨htaken, -, hquiet⟩ | ⟨pdu, -, hbusy, hid, hpoll⟩
  · cases htime : endpoint.timedOut now with
    | true =>
        rw [RpcClientEndpointImpl.poll_of_timedOut htime]
        have hdeliver :
            (Delivery.allocate env.allocated).deliver [] = .ok := rfl
        rw [if_neg (by simp), if_neg (not_not_intro hdeliver)]
        split_ifs with hname
        · exact .misnamed htime hname
        · exact .timeout htime
    | false =>
        have hevent : (endpoint.poll C now
            ⟨RpcClientEndpointImpl.blankHeader, []⟩).2.1 = .none :=
          hquiet.resolve_right (RpcClientEndpointImpl.poll_ne_timeout htime _)
        rw [if_pos hevent]
        split_ifs with hslept
        · exact .again
        · exact .wakeless htime htaken (by simpa using hslept)
  · rw [hpoll]
    dsimp only
    by_cases hvalid : endpoint.validateHeader
        (RpcClientEndpointImpl.readResponse C pdu) = true
    · rw [if_pos hvalid]
      have hterminal := RpcClientEndpointImpl.terminal_terminalEvent
        (RpcClientEndpointImpl.readResponse C pdu)
      split_ifs
      · exact .again
      · exact .freed rfl
      · exact .freed rfl
      · exact .freed rfl
      · exact .ended hterminal hbusy rfl hid
    · rw [if_neg hvalid, if_pos rfl]
      split_ifs
      · exact .again
      · exact .freed rfl

/-! ## The stages -/

theorem endpoint?_setRpc_modify
    {f : RpcClientEndpointImpl → RpcClientEndpointImpl} {name : String}
    (hfind : s.endpoint? name = some endpoint) :
    (s.setRpc ⟨s.client.rpc.rpcEndpoints.modify (cString name) f⟩).endpoint?
      name = some (f endpoint) := by
  change (s.client.rpc.rpcEndpoints.modify (cString name) f).find?
    (cString name) = _
  rw [OrdMap.find?_modify, if_pos rfl,
    show s.client.rpc.rpcEndpoints.find? (cString name) = some endpoint from
      hfind]
  rfl

/-- An operation of the services that is one of the endpoint of a service. -/
def Lifts (f : RpcServicesClient → String → Outcome RpcServicesClient Sent Bool)
    (g : String → RpcClientEndpointImpl →
      Outcome RpcClientEndpointImpl Sent Bool) : Prop :=
  ∀ rpc name, f rpc name =
    match rpc.rpcEndpoints.find? name with
    | none => { state := rpc, result := false }
    | some endpoint => (g name endpoint).embed fun endpoint =>
        ⟨rpc.rpcEndpoints.modify name fun _ => endpoint⟩

section Lifts

variable
  {f : RpcServicesClient → String → Outcome RpcServicesClient Sent Bool}
  {g : String → RpcClientEndpointImpl →
    Outcome RpcClientEndpointImpl Sent Bool}
  {name : String}

theorem Lifts.native_eq (h : Lifts f g) (hname : cString name ≠ "")
    (hstarted : s.started = true)
    (hfind : s.endpoint? name = some endpoint) :
    s.native name f = (g (cString name) endpoint).embed fun endpoint =>
      s.setRpc ⟨s.client.rpc.rpcEndpoints.modify (cString name)
        fun _ => endpoint⟩ := by
  have hfind' : s.client.rpc.rpcEndpoints.find? (cString name) =
      some endpoint := hfind
  simp [native, hname, hstarted, h _ _, hfind', Outcome.embed]

/-- The operation is refused and nothing changes, or it is that of the
endpoint. -/
theorem Lifts.native_cases (h : Lifts f g) (s : RpcClient) (name : String) :
    s.native name f = { state := s, result := false } ∨
      ∃ endpoint, s.endpoint? name = some endpoint ∧ cString name ≠ "" ∧
        s.started = true ∧
        s.native name f = (g (cString name) endpoint).embed fun endpoint =>
          s.setRpc ⟨s.client.rpc.rpcEndpoints.modify (cString name)
            fun _ => endpoint⟩ := by
  by_cases hnative : cString name = "" ∨ s.started = false
  · exact Or.inl (if_pos hnative)
  · cases hfind : s.endpoint? name with
    | none =>
        have hfind' : s.client.rpc.rpcEndpoints.find? (cString name) = none :=
          hfind
        left
        simp [native, hnative, h _ _, hfind', Outcome.embed, setRpc]
    | some endpoint =>
        simp only [not_or, Bool.not_eq_false] at hnative
        exact Or.inr ⟨endpoint, rfl, hnative.1, hnative.2,
          h.native_eq hnative.1 hnative.2 hfind⟩

end Lifts

theorem lifts_call (net : PduEndpoint) (now : String → UInt64)
    (pdu : PduData) (timeoutUsec : UInt64) :
    Lifts (fun rpc name => rpc.call net (now name) name pdu timeoutUsec)
      fun name endpoint => endpoint.call net (now name) pdu timeoutUsec :=
  fun _ _ => rfl

theorem lifts_sendCancelRequest (C : RpcConvertors) (net : PduEndpoint) :
    Lifts (fun rpc name => rpc.sendCancelRequest C net name)
      fun _ endpoint => endpoint.sendCancelRequest C net :=
  fun _ _ => rfl

/-- What a call comes to while no service has a request in flight. -/
theorem nativeCall_cases (hidle : AllIdle s) (net : PduEndpoint)
    (now : String → UInt64) (name : String) (pdu : PduData)
    (timeoutUsec : UInt64) :
    let o := s.nativeCall net now name pdu timeoutUsec
    (o.result = false ∧ AllIdle o.state ∧ o.state.inflight = s.inflight) ∨
      ∃ endpoint, s.endpoint? name = some endpoint ∧ cString name ≠ "" ∧
        s.started = true ∧ o.result = true ∧
        o.state = s.setRpc ⟨s.client.rpc.rpcEndpoints.modify (cString name)
          fun _ => endpoint.startRequest (now (cString name)) timeoutUsec⟩ := by
  dsimp only
  unfold nativeCall
  rcases (lifts_call net now pdu timeoutUsec).native_cases s name with
    hrefused | ⟨endpoint, hfind, hname, hstarted, hcall⟩
  · rw [hrefused]
    exact Or.inl ⟨rfl, hidle, rfl⟩
  · rw [hcall]
    rcases RpcClientEndpointImpl.call_cases net endpoint
        (now (cString name)) pdu timeoutUsec with
      ⟨hbusy, -⟩ | ⟨-, -, hfailed⟩ | ⟨-, -, hsent⟩
    · exact absurd (hidle _ _ hfind) hbusy
    · rw [hfailed]
      refine Or.inl ⟨rfl, ?_, rfl⟩
      exact (continues_set hfind (.of_idle rfl)).allIdle hidle
    · rw [hsent]
      exact Or.inr ⟨endpoint, hfind, hname, hstarted, rfl, rfl⟩

theorem sendWhenConnected_of_sent
    (hrange : ¬(w.call.timeoutUsec < 0 ∨
      18446744073709551616 ≤ w.call.timeoutUsec))
    (hresult : (s.nativeCall env.net env.now w.call.serviceName w.call.pdu
      (UInt64.ofNat w.call.timeoutUsec.toNat)).result = true)
    (hstate : (s.nativeCall env.net env.now w.call.serviceName w.call.pdu
      (UInt64.ofNat w.call.timeoutUsec.toNat)).state = s')
    (hfind : s'.endpoint? w.call.serviceName = some endpoint) :
    s.sendWhenConnected C w env =
      (s'.advance w .callImpl, [.sent (w.call.sentRequest C endpoint)]) := by
  rw [sendWhenConnected, if_neg hrange]
  dsimp only
  rw [if_pos hresult, hstate, hfind]
  rfl

theorem free_of_idle {name : String} (hnone : s.inflight = none)
    (hfind : s.endpoint? name = some endpoint)
    (hidle : endpoint.clientState.state = .idle) : Free C s name endpoint := by
  refine ⟨hidle, ?_⟩
  rintro call env rfl hname hstarted hlow hhigh hsend
  have hrange : ¬(call.timeoutUsec < 0 ∨
      18446744073709551616 ≤ call.timeoutUsec) := by
    omega
  have hcall := @Lifts.native_eq
    { s with inflight := some ⟨call, .sendWhenConnected⟩ } endpoint _ _
    call.serviceName (lifts_call env.net env.now call.pdu
      (UInt64.ofNat call.timeoutUsec.toNat)) hname hstarted hfind
  rcases RpcClientEndpointImpl.call_cases env.net endpoint
      (env.now (cString call.serviceName)) call.pdu
      (UInt64.ofNat call.timeoutUsec.toNat) with
    ⟨hbusy, -⟩ | ⟨-, hfailed, -⟩ | ⟨-, -, hsent⟩
  · exact absurd hidle hbusy
  · rw [hsend] at hfailed
    cases hfailed
  · rw [hsent] at hcall
    have hwork := @sendWhenConnected_of_sent C
      { s with inflight := some ⟨call, .sendWhenConnected⟩ } _
      ⟨call, .sendWhenConnected⟩ env _ hrange
      (congrArg Outcome.result hcall) (congrArg Outcome.state hcall)
      (endpoint?_setRpc_modify hfind)
    refine ⟨call.sentRequest C (endpoint.startRequest
      (env.now (cString call.serviceName))
      (UInt64.ofNat call.timeoutUsec.toNat)), ?_⟩
    simp only [Machine.trace_cons, Machine.trace_nil, machine, hnone, work]
    rw [hwork]
    rfl

/-- What is shown of a step of the worker. -/
structure Sound (C : RpcConvertors) (sent : List SentRequest)
    (r : RpcClient × List CallObs) : Prop where
  owned : Owned r.1 (sentRequests r.2 ++ sent)
  released : ∀ serviceName outcome, .completed serviceName outcome ∈ r.2 →
    Released C sent r.1 serviceName outcome

theorem Sound.quiet (h : Owned s sent) : Sound C sent (s, []) := by
  refine ⟨h, ?_⟩
  intro serviceName outcome hmem
  cases hmem

theorem Sound.complete (hidle : AllIdle s)
    {outcome : Except CallError PduData}
    (hown : ∀ pdu, outcome = .ok pdu → Fresh sent.tail w.call.serviceName
      (RpcClientEndpointImpl.readResponse C pdu).requestId) :
    Sound C sent (s.complete w outcome) := by
  constructor
  · apply AllIdle.owned
    · exact hidle
    · intro w' hw'
      cases hw'
  · intro serviceName outcome' hmem
    rw [RpcClient.complete, List.mem_singleton] at hmem
    obtain ⟨rfl, rfl⟩ := CallObs.completed.inj hmem
    refine ⟨?_, hown⟩
    intro endpoint hfind
    exact free_of_idle rfl hfind (hidle _ _ hfind)

theorem Sound.failed (hidle : AllIdle s) (error : CallError) :
    Sound C sent (s.complete w (.error error)) := by
  apply Sound.complete hidle
  intro pdu hpdu
  cases hpdu

theorem Owned.sendWhenConnected (h : Owned s sent)
    (hw : s.inflight = some w) (hstage : w.stage = .sendWhenConnected)
    (hsettles : ∀ endpoint ∈ s.endpoint? w.call.serviceName,
      SettlesStage C sent w env endpoint) :
    Sound C sent (s.sendWhenConnected C w env) := by
  have hidle : AllIdle s := h.allIdle hw hstage
  by_cases hrange : w.call.timeoutUsec < 0 ∨
      18446744073709551616 ≤ w.call.timeoutUsec
  · rw [RpcClient.sendWhenConnected, if_pos hrange]
    exact .failed hidle _
  · rcases nativeCall_cases hidle env.net env.now w.call.serviceName w.call.pdu
        (UInt64.ofNat w.call.timeoutUsec.toNat) with
      ⟨hresult, hidle', hinflight⟩ |
        ⟨endpoint, hfind, hname, hstarted, hresult, hstate⟩
    · rw [RpcClient.sendWhenConnected, if_neg hrange]
      dsimp only
      rw [if_neg (by simp [hresult])]
      split_ifs
      · exact .failed hidle' _
      · apply Sound.quiet
        apply hidle'.owned
        intro w' hw'
        rw [hinflight, hw] at hw'
        obtain rfl := Option.some.inj hw'
        exact hstage
      · exact .failed hidle' _
    · have hfresh : Fresh sent w.call.serviceName
          endpoint.currentRequestId.toUInt32 := by
        have hmet := hsettles endpoint hfind
        simpa only [SettlesStage, hstage] using hmet
      rw [sendWhenConnected_of_sent hrange hresult hstate
        (endpoint?_setRpc_modify hfind)]
      constructor
      · constructor
        · intro name endpoint' hfind' hfree
          have hne : name ≠ cString w.call.serviceName :=
            hfree { w with stage := .callImpl } rfl (by simp)
          have hsame : s.client.rpc.rpcEndpoints.find? name =
              some endpoint' := by
            have hmodify := OrdMap.find?_modify s.client.rpc.rpcEndpoints
              (cString w.call.serviceName) name (fun _ =>
                endpoint.startRequest (env.now (cString w.call.serviceName))
                  (UInt64.ofNat w.call.timeoutUsec.toNat))
            rw [if_neg hne] at hmodify
            exact hmodify.symm.trans hfind'
          exact hidle name endpoint' hsame
        · intro w' hw' _
          obtain rfl := Option.some.inj hw'
          exact ⟨_, _, sent, rfl,
            { started := hstarted
              named := hname
              found := endpoint?_setRpc_modify hfind
              tracked := fun _ => rfl
              cancelled := fun hwait => by cases hwait
              fresh := hfresh }⟩
      · intro serviceName outcome hmem
        simp at hmem

/-- A turn of the worker, with the endpoint of its service before and after
it. -/
structure Turned (C : RpcConvertors) (s : RpcClient)
    (sent : List SentRequest) (w : Worker) (env : WorkEnv)
    (endpoint endpoint' : RpcClientEndpointImpl) : Prop where
  found : s.endpoint? w.call.serviceName = some endpoint
  turnCase : TurnCase C w env endpoint endpoint' (s.turn C w env).2
  owned : Owned (s.turn C w env).1 sent
  inflight_eq : (s.turn C w env).1.inflight = some w
  allIdle : endpoint'.clientState.state = .idle →
    AllIdle (s.turn C w env).1
  continues : RpcClientEndpointImpl.Continues endpoint endpoint'
  cancelled : w.stage = .waitAfterTimeout →
    endpoint.clientState.state ≠ .running
  fresh : endpoint.clientState.state ≠ .idle →
    Fresh sent.tail w.call.serviceName endpoint.clientState.requestId

theorem Owned.turned (h : Owned s sent) (C : RpcConvertors) (env : WorkEnv)
    (hw : s.inflight = some w) (hstage : w.stage ≠ .sendWhenConnected) :
    ∃ endpoint endpoint', Turned C s sent w env endpoint endpoint' := by
  obtain ⟨endpoint, request, earlier, rfl, hflight⟩ := h.inflight w hw hstage
  obtain ⟨endpoint', hkeeps, hstate, hcase⟩ := turn_cases C env
    hflight.started hflight.found (h.others hw)
  have hcontinues : Continues s (s.turn C w env).1 := by
    rw [hstate]
    exact continues_set hflight.found hkeeps
  have hinflight : (s.turn C w env).1.inflight = s.inflight := by
    rw [hstate]
    rfl
  have howned : Owned (s.turn C w env).1 (request :: earlier) := by
    apply h.continues hcontinues hinflight
    intro hstarted
    rw [hstate]
    exact hstarted
  have hturned : (s.turn C w env).1.endpoint? w.call.serviceName =
      some endpoint' := by
    rw [hstate]
    exact endpoint?_setRpc_modify hflight.found
  exact ⟨endpoint, endpoint',
    { found := hflight.found
      turnCase := hcase
      owned := howned
      inflight_eq := hinflight.trans hw
      allIdle := howned.allIdle_of_endpoint (hinflight.trans hw) hturned
      continues := hkeeps
      cancelled := hflight.cancelled
      fresh := fun hbusy => (hflight.tracked hbusy).symm ▸ hflight.fresh }⟩

theorem Owned.advance (h : Owned s sent) (hw : s.inflight = some w)
    (hstage : w.stage ≠ .sendWhenConnected) {stage : Stage}
    (hsent : stage ≠ .sendWhenConnected)
    (hnext : stage = .waitAfterTimeout →
      ∀ endpoint ∈ s.endpoint? w.call.serviceName,
        endpoint.clientState.state ≠ .running) :
    Owned (s.advance w stage) sent := by
  constructor
  · intro name endpoint hfind hfree
    apply h.idle name endpoint hfind
    intro w' hw' _
    obtain rfl := Option.some.inj (hw.symm.trans hw')
    exact hfree { w with stage := stage } rfl hsent
  · intro w' hw' _
    obtain rfl := Option.some.inj hw'
    obtain ⟨endpoint, request, earlier, rfl, hflight⟩ :=
      h.inflight w hw hstage
    exact ⟨endpoint, request, earlier, rfl,
      { started := hflight.started
        named := hflight.named
        found := hflight.found
        tracked := hflight.tracked
        cancelled := fun hwait => hnext hwait endpoint hflight.found
        fresh := hflight.fresh }⟩

theorem Owned.expired (h : Owned s sent) (hw : s.inflight = some w)
    (hfind : s.endpoint? w.call.serviceName = some endpoint)
    (hexpired : env.expired = true)
    (hmet : endpoint.clientState.state ≠ .idle → env.expired = false)
    (error : CallError) : Sound C sent (s.complete w (.error error)) := by
  apply Sound.failed
  apply h.allIdle_of_endpoint hw hfind
  by_contra hbusy
  rw [hmet hbusy] at hexpired
  cases hexpired

section Turned

variable {endpoint' : RpcClientEndpointImpl}

theorem Turned.sleepless (h : Turned C s sent w env endpoint endpoint')
    (hslept : env.slept = false)
    (hmet : endpoint.clientState.state ≠ .idle → env.slept = true)
    (error : CallError) :
    Sound C sent ((s.turn C w env).1.complete w (.error error)) := by
  apply Sound.failed
  apply h.allIdle
  by_contra hbusy
  rw [hmet (h.continues.busy hbusy)] at hslept
  cases hslept

theorem Turned.returned (h : Turned C s sent w env endpoint endpoint')
    (hbusy : endpoint.clientState.state ≠ .idle)
    (hidle : endpoint'.clientState.state = .idle) {pdu : PduData}
    (hid : (RpcClientEndpointImpl.readResponse C pdu).requestId =
      endpoint.clientState.requestId) :
    Sound C sent ((s.turn C w env).1.complete w (.ok pdu)) := by
  apply Sound.complete (h.allIdle hidle)
  intro pdu' hpdu
  obtain rfl := Except.ok.inj hpdu
  rw [hid]
  exact h.fresh hbusy

end Turned

theorem Owned.callImpl (h : Owned s sent) (hw : s.inflight = some w)
    (hstage : w.stage = .callImpl)
    (hsettles : ∀ endpoint ∈ s.endpoint? w.call.serviceName,
      SettlesStage C sent w env endpoint) :
    Sound C sent (s.callImpl C w env) := by
  obtain ⟨endpoint, endpoint', hturned⟩ := h.turned C env hw
    (by simp [hstage])
  have hmet := hsettles endpoint hturned.found
  simp only [SettlesStage, hstage] at hmet
  have hlate : endpoint.timedOut (env.now (cString w.call.serviceName)) = true →
      w.call.cancelOnTimeout = true ∧ NameReturned w.call.serviceName := by
    intro htimeout
    refine (hmet ?_).2.1 htimeout
    intro hidle
    rw [RpcClientEndpointImpl.timedOut_of_idle hidle] at htimeout
    cases htimeout
  rw [RpcClient.callImpl]
  by_cases hexpired : env.expired = true
  · rw [if_pos hexpired]
    exact h.expired hw hturned.found hexpired (fun hbusy => (hmet hbusy).1) _
  · rw [if_neg hexpired]
    dsimp only
    have hcase := hturned.turnCase
    generalize (s.turn C w env).2 = result at hcase
    cases hcase with
    | again => exact .quiet hturned.owned
    | freed hidle => exact .failed (hturned.allIdle hidle) _
    | wakeless htime htaken hslept =>
        exact hturned.sleepless hslept
          (fun hbusy => (hmet hbusy).2.2 htime htaken) _
    | misnamed htimeout hname => exact absurd (hlate htimeout).2 hname
    | timeout htimeout =>
        dsimp only
        rw [if_pos (hlate htimeout).1]
        apply Sound.quiet
        apply hturned.owned.advance hturned.inflight_eq
        · simp [hstage]
        · simp
        · intro hwait
          cases hwait
    | ended hterminal hbusy hidle hid =>
        rcases hterminal with rfl | rfl
        · exact hturned.returned hbusy hidle hid
        · exact .failed (hturned.allIdle hidle) _

theorem Owned.waitAfterTimeout (h : Owned s sent) (hw : s.inflight = some w)
    (hstage : w.stage = .waitAfterTimeout)
    (hsettles : ∀ endpoint ∈ s.endpoint? w.call.serviceName,
      SettlesStage C sent w env endpoint) :
    Sound C sent (s.waitAfterTimeout C w env) := by
  obtain ⟨endpoint, endpoint', hturned⟩ := h.turned C env hw
    (by simp [hstage])
  have hmet := hsettles endpoint hturned.found
  simp only [SettlesStage, hstage] at hmet
  -- a request that was cancelled is not timed out any more
  have hintime : endpoint.timedOut
      (env.now (cString w.call.serviceName)) = false := by
    simp [RpcClientEndpointImpl.timedOut, hturned.cancelled hstage]
  rw [RpcClient.waitAfterTimeout]
  by_cases hexpired : env.expired = true
  · rw [if_pos hexpired]
    exact h.expired hw hturned.found hexpired (fun hbusy => (hmet hbusy).1) _
  · rw [if_neg hexpired]
    dsimp only
    have hcase := hturned.turnCase
    generalize (s.turn C w env).2 = result at hcase
    cases hcase with
    | again => exact .quiet hturned.owned
    | freed hidle => exact .failed (hturned.allIdle hidle) _
    | wakeless htime htaken hslept =>
        exact hturned.sleepless hslept (fun hbusy => (hmet hbusy).2 htaken) _
    | misnamed htimeout =>
        rw [hintime] at htimeout
        cases htimeout
    | timeout htimeout =>
        rw [hintime] at htimeout
        cases htimeout
    | ended hterminal hbusy hidle hid =>
        rcases hterminal with rfl | rfl
        · exact hturned.returned hbusy hidle hid
        · exact .failed (hturned.allIdle hidle) _

/-- A cancel request starts nothing, whichever service it is for. -/
theorem cancel_continues (s : RpcClient) (net : PduEndpoint) (name : String) :
    Continues s (s.cancel C net name).state ∧
      (s.cancel C net name).state.inflight = s.inflight ∧
      (s.cancel C net name).state.started = s.started := by
  unfold cancel
  rcases (lifts_sendCancelRequest C net).native_cases s name with
    hrefused | ⟨endpoint, hfind, -, -, hcancel⟩
  · rw [hrefused]
    exact ⟨continues_refl s, rfl, rfl⟩
  · rw [hcancel]
    exact ⟨continues_set hfind (.sendCancelRequest net endpoint), rfl, rfl⟩

theorem createRequestBuffer_continues (s : RpcClient) (net : PduEndpoint)
    (name : String) :
    Continues s (s.createRequestBuffer C net name) ∧
      (s.createRequestBuffer C net name).inflight = s.inflight ∧
      (s.createRequestBuffer C net name).started = s.started := by
  unfold createRequestBuffer
  split_ifs
  · exact ⟨continues_refl s, rfl, rfl⟩
  · refine ⟨?_, rfl, rfl⟩
    unfold RpcServicesClient.createRequestBuffer
    split
    · exact continues_refl s
    · next endpoint hfind =>
        exact continues_set hfind (.of_clientState_eq rfl)

theorem Owned.cancelAfterTimeout (h : Owned s sent) (hw : s.inflight = some w)
    (hstage : w.stage = .cancelOnTimeout)
    (hsettles : ∀ endpoint ∈ s.endpoint? w.call.serviceName,
      SettlesStage C sent w env endpoint) :
    Sound C sent (s.cancelAfterTimeout C w env) := by
  obtain ⟨endpoint, request, earlier, rfl, hflight⟩ :=
    h.inflight w hw (by simp [hstage])
  have hmet := hsettles endpoint hflight.found
  simp only [SettlesStage, hstage] at hmet
  obtain ⟨hcontinues, hinflight, hstarted⟩ :=
    cancel_continues (C := C) s env.net w.call.serviceName
  have howned := h.continues hcontinues hinflight (fun hs => hstarted.trans hs)
  have hcancel : s.cancel C env.net w.call.serviceName = _ :=
    (lifts_sendCancelRequest C env.net).native_eq hflight.named
      hflight.started hflight.found
  rw [RpcClient.cancelAfterTimeout]
  by_cases hidle : endpoint.clientState.state = .idle
  · have hresult : (s.cancel C env.net w.call.serviceName).result = false := by
      simp [hcancel, RpcClientEndpointImpl.sendCancelRequest, hidle]
    rw [if_neg (by simp [hresult])]
    apply Sound.failed
    apply hcontinues.allIdle
    exact h.allIdle_of_endpoint hw hflight.found hidle
  · obtain ⟨hrunning, hsend⟩ := hmet hidle
    rcases RpcClientEndpointImpl.sendCancelRequest_cases C env.net endpoint with
      ⟨hother, -⟩ | ⟨-, hfailed, -⟩ | ⟨-, -, hsent⟩
    · exact absurd hrunning hother
    · rw [hsend] at hfailed
      cases hfailed
    · rw [hsent] at hcancel
      rw [if_pos (by rw [hcancel]; rfl)]
      apply Sound.quiet
      apply howned.advance (hinflight.trans hw)
      · simp [hstage]
      · simp
      · intro _ endpoint' hfind'
        have hfound : (s.cancel C env.net w.call.serviceName).state.endpoint?
            w.call.serviceName = some (endpoint.setState .cancelling) := by
          rw [hcancel]
          exact endpoint?_setRpc_modify hflight.found
        obtain rfl := Option.some.inj (hfound.symm.trans hfind')
        intro hstate
        cases hstate

end Steps

/-! ## Runs -/

section Runs

variable {C : RpcConvertors} {s : RpcClient} {sent : List SentRequest}

theorem Owned.work (h : Owned s sent) {w : Worker} (hw : s.inflight = some w)
    {env : WorkEnv} (hsettles : Settles C (s, sent) (.work env)) :
    Sound C sent (s.work C w env) := by
  have hmet := hsettles w hw
  rw [RpcClient.work]
  cases hstage : w.stage with
  | sendWhenConnected => exact h.sendWhenConnected hw hstage hmet
  | callImpl => exact h.callImpl hw hstage hmet
  | cancelOnTimeout => exact h.cancelAfterTimeout hw hstage hmet
  | waitAfterTimeout => exact h.waitAfterTimeout hw hstage hmet

/-- A step that meets the condition leaves the client usable, and the request in
flight with the worker. -/
theorem Owned.step (h : Owned s sent) {i : Input}
    (hsettles : Settles C (s, sent) i) :
    Sound C sent ((machine C).step s i) := by
  cases i with
  | start ok =>
      apply Sound.quiet
      apply h.continues
      · exact continues_refl s
      · rfl
      · intro hstarted
        simp [hstarted]
  | createRequestBuffer net serviceName =>
      obtain ⟨hcontinues, hinflight, hstarted⟩ :=
        createRequestBuffer_continues (C := C) s net serviceName
      apply Sound.quiet
      exact h.continues hcontinues hinflight (fun hs => hstarted.trans hs)
  | callAsync call =>
      simp only [machine]
      cases hw : s.inflight with
      | some w =>
          refine ⟨h, ?_⟩
          intro serviceName outcome hmem
          simp at hmem
      | none =>
          apply Sound.quiet
          apply AllIdle.owned
          · intro name endpoint hfind
            apply h.idle name endpoint hfind
            intro w hw'
            rw [hw] at hw'
            cases hw'
          · intro w hw'
            obtain rfl := Option.some.inj hw'
            rfl
  | cancel net serviceName =>
      obtain ⟨hcontinues, hinflight, hstarted⟩ :=
        cancel_continues (C := C) s net serviceName
      apply Sound.quiet
      exact h.continues hcontinues hinflight (fun hs => hstarted.trans hs)
  | receive serviceName pdu =>
      apply Sound.quiet
      refine h.continues (continues_modify ?_) rfl id
      intro endpoint _
      exact .of_clientState_eq rfl
  | work env =>
      simp only [machine]
      cases hw : s.inflight with
      | none => exact .quiet h
      | some w => exact h.work hw hsettles

theorem allIdle_create (clientName : String) (services : List String) :
    AllIdle (create clientName services) := by
  have hfold : ∀ (m : OrdMap String RpcClientEndpointImpl),
      (∀ name endpoint, m.find? name = some endpoint →
        endpoint.clientState.state = .idle) →
      ∀ name endpoint, (services.foldl (fun endpoints service =>
        endpoints.assign service (.create service clientName)) m).find? name =
          some endpoint → endpoint.clientState.state = .idle := by
    induction services with
    | nil => exact fun m hm => hm
    | cons service services ih =>
        intro m hm
        apply ih
        intro name endpoint hfind
        rw [OrdMap.find?_assign] at hfind
        split_ifs at hfind with hname
        · obtain rfl := Option.some.inj hfind
          rfl
        · exact hm name endpoint hfind
  apply hfold
  intro name endpoint hfind
  cases hfind

end Runs

end RpcClient

/-- In every run of the client, from its creation on, in which the worker never
gives up a request that is in flight and no request is sent under an id of the
request before it: whenever the lock is released the endpoint of the service is
idle, the next call is sent, and no response returned is that of the call
before. -/
theorem client_reusable_of_settles (C : RpcConvertors) (clientName : String)
    (services : List String) (is : List RpcClient.Input)
    (h : (RpcClient.recordingMachine C).Along (RpcClient.Settles C)
      (.create clientName services, []) is) :
    (RpcClient.recordingMachine C).Along (RpcClient.Reusable C)
      (.create clientName services, []) is := by
  have hcreated : RpcClient.Owned (.create clientName services) [] := by
    apply (RpcClient.allIdle_create clientName services).owned
    intro w hw
    cases hw
  have howned := Machine.Along.before (RpcClient.recordingMachine C)
    (I := fun s => RpcClient.Owned s.1 s.2)
    (fun s i hsettles hs => (hs.step hsettles).owned) hcreated h
  apply howned.mono
  rintro s i ⟨hs, hsettles⟩
  exact (hs.step hsettles).released

section Sample

open RpcClient ServiceLayout

/-- A step of the worker at this reading of the clock, before its deadline. -/
def workAt (now : UInt64) : RpcClient.Input :=
  .work ⟨sampleNet, fun _ => now, false, true, true⟩

/-- The worker sends a request with a timeout that passes. -/
def lateCall (cancelOnTimeout : Bool) : List RpcClient.Input :=
  [.start true, .createRequestBuffer sampleNet "Add",
    .callAsync ⟨"Add", servicePacket 1 operationRequest, 1000,
      cancelOnTimeout⟩,
    workAt 0, workAt 2000]

/-- The call is cancelled, its response comes before the cancel response, and
the next call is made while the cancel response waits. -/
def lateCallCancelled : List RpcClient.Input :=
  lateCall true ++
    [workAt 2000,
      .receive "Add" (responsePacket ⟨1, "Add", "Client", 3, 100, 0⟩),
      workAt 2000, .createRequestBuffer sampleNet "Add",
      .callAsync ⟨"Add", servicePacket 2 operationRequest, 1000, true⟩,
      workAt 3000,
      .receive "Add" (responsePacket ⟨1, "Add", "Client", 3, 100, 2⟩),
      workAt 3000,
      .receive "Add" (responsePacket ⟨2, "Add", "Client", 3, 100, 0⟩),
      workAt 3000]

theorem lateCallCancelled_reusable :
    (recordingMachine layoutConvertors).Along (Reusable layoutConvertors)
      (.create "Client" ["Add"], []) lateCallCancelled ∧
      (recordingMachine layoutConvertors).trace (.create "Client" ["Add"], [])
        lateCallCancelled =
        [.sent ⟨"Add", 1, 1⟩,
          .completed "Add"
            (.ok (responsePacket ⟨1, "Add", "Client", 3, 100, 0⟩)),
          .sent ⟨"Add", 2, 2⟩,
          .completed "Add"
            (.ok (responsePacket ⟨2, "Add", "Client", 3, 100, 0⟩))] := by
  constructor
  · apply client_reusable_of_settles
    decide +kernel
  · decide +kernel

/-- Without `cancel_on_timeout` the future is completed with a timeout and the
request is still running. -/
theorem lateCall_not_reusable :
    ¬∀ is, (recordingMachine layoutConvertors).Along
      (Reusable layoutConvertors) (.create "Client" ["Add"], []) is := by
  intro h
  obtain ⟨-, -, -, -, hlast, -⟩ := h (lateCall false)
  have hreleased := hlast "Add" (.error .timedOut) (by decide +kernel)
  have hrunning : (((recordingMachine layoutConvertors).run
      (.create "Client" ["Add"], []) (lateCall false)).1.endpoint? "Add").any
        (fun endpoint => endpoint.clientState.state = .running) = true := by
    decide +kernel
  obtain ⟨endpoint, hfind, hstate⟩ := (Option.any_eq_true _ _).mp hrunning
  have hidle := (hreleased.free endpoint hfind).idle
  rw [hidle] at hstate
  cases hstate

end Sample

end Rpc
end HakoPduRpc
