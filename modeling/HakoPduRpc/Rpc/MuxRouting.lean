import HakoPduRpc.Lib.Tickets
import HakoPduRpc.Rpc.MuxServer
import HakoPduRpc.Rpc.Protocol

/-!
# Replies are routed to the connection of their request

Connection ids and tokens are numbers of two counters.  The ids of the slots are
live in the first, the tokens of the stored requests in the second, and a stored
request keeps the id of the slot that it was polled from.  So a token leads to
the connection of its request or to none, for as long as the counters have not
gone round.
-/

namespace HakoPduRpc
namespace Rpc

open KeyedList Tickets

/-! ## The multiplexer -/

namespace MuxObs

/-- The id that is handed out. -/
def acceptedId? : MuxObs → Option UInt64
  | .accepted id _ => some id
  | _ => none

/-- The id of a connection that is closed. -/
def closedId? : MuxObs → Option UInt64
  | .closed id => some id
  | _ => none

end MuxObs

/-- The ids handed out. -/
def acceptedIds (past : List MuxObs) : List UInt64 :=
  past.filterMap MuxObs.acceptedId?

/-- The ids of the connections that were closed. -/
def closedIds (past : List MuxObs) : List UInt64 :=
  past.filterMap MuxObs.closedId?

@[simp] theorem acceptedIds_append (l l' : List MuxObs) :
    acceptedIds (l ++ l') = acceptedIds l ++ acceptedIds l' :=
  List.filterMap_append

@[simp] theorem closedIds_append (l l' : List MuxObs) :
    closedIds (l ++ l') = closedIds l ++ closedIds l' :=
  List.filterMap_append

@[simp] theorem acceptedIds_accepted (id : UInt64) (ok : Bool) :
    acceptedIds [.accepted id ok] = [id] := rfl

@[simp] theorem closedIds_accepted (id : UInt64) (ok : Bool) :
    closedIds [.accepted id ok] = [] := rfl

theorem mem_closedIds {id : UInt64} {past : List MuxObs} :
    id ∈ closedIds past ↔ MuxObs.closed id ∈ past := by
  rw [closedIds, List.mem_filterMap]
  constructor
  · rintro ⟨o, ho, hid⟩
    cases o with
    | closed id' =>
        rw [Option.some.inj hid] at ho
        exact ho
    | accepted | turnedAway | sent => cases hid
  · intro h
    exact ⟨_, h, rfl⟩

/-- Observations that hand out no id and close no connection. -/
def Silent (l : List MuxObs) : Prop := acceptedIds l = [] ∧ closedIds l = []

theorem silent_sent (id : UInt64) (l : List Sent) :
    Silent (l.map (MuxObs.sent id)) := by
  constructor
  · simp [acceptedIds, List.filterMap_map, Function.comp_def,
      MuxObs.acceptedId?]
  · simp [closedIds, List.filterMap_map, Function.comp_def, MuxObs.closedId?]

theorem acceptedIds_closed (ids : List UInt64) :
    acceptedIds (ids.map MuxObs.closed) = [] := by
  simp [acceptedIds, List.filterMap_map, Function.comp_def,
    MuxObs.acceptedId?]

theorem closedIds_closed (ids : List UInt64) :
    closedIds (ids.map MuxObs.closed) = ids := by
  simp [closedIds, List.filterMap_map, Function.comp_def, MuxObs.closedId?]

namespace RpcServicesMuxServer

variable {C : RpcConvertors} {s s' : RpcServicesMuxServer}
  {past seen : List MuxObs}

/-- The ids of the slots. -/
def ids (s : RpcServicesMuxServer) : List UInt64 :=
  s.slots.map (·.connectionId)

/-- What is known of the connections, given what has been seen so far. -/
structure Accounted (s : RpcServicesMuxServer) (past : List MuxObs) :
    Prop where
  ledger : Ledger s.nextConnectionId s.ids (acceptedIds past) (closedIds past)
  accepted : ∀ id ∈ s.ids, MuxObs.accepted id true ∈ past

/-- The slots and the counter stay as they are. -/
structure SameIds (s s' : RpcServicesMuxServer) : Prop where
  ids_eq : s'.ids = s.ids
  next_eq : s'.nextConnectionId = s.nextConnectionId

theorem SameIds.refl (s : RpcServicesMuxServer) : SameIds s s := ⟨rfl, rfl⟩

theorem SameIds.trans {s'' : RpcServicesMuxServer} (h : SameIds s s')
    (h' : SameIds s' s'') : SameIds s s'' :=
  ⟨h'.ids_eq.trans h.ids_eq, h'.next_eq.trans h.next_eq⟩

theorem Accounted.same (h : Accounted s past) (hsame : SameIds s s')
    (hseen : Silent seen) : Accounted s' (past ++ seen) where
  ledger := by
    rw [hsame.ids_eq, hsame.next_eq, acceptedIds_append, closedIds_append,
      hseen.1, hseen.2, List.append_nil, List.append_nil]
    exact h.ledger
  accepted := by
    intro id hid
    rw [hsame.ids_eq] at hid
    exact List.mem_append_left _ (h.accepted id hid)

theorem transport_sameIds (s : RpcServicesMuxServer) (event : TransportEvent) :
    SameIds s (s.transport event) := by
  cases event with
  | receive slot serviceName pdu =>
      exact ⟨map_key_modify (f := fun slot : ConnectionSlot =>
        { slot with server := slot.server.receive serviceName pdu })
        (fun _ => rfl) slot s.slots, rfl⟩
  | disconnect slot =>
      exact ⟨map_key_modify (f := fun slot : ConnectionSlot =>
        { slot with disconnected := true }) (fun _ => rfl) slot s.slots, rfl⟩

theorem transportAll_sameIds (s : RpcServicesMuxServer)
    (events : List TransportEvent) : SameIds s (s.transportAll events) := by
  induction events generalizing s with
  | nil => exact .refl s
  | cons event events ih => exact (transport_sameIds s event).trans (ih _)

theorem Accounted.transportAll (h : Accounted s past)
    (events : List TransportEvent) : Accounted (s.transportAll events) past := by
  have hsilent : Silent [] := ⟨rfl, rfl⟩
  have hnext := h.same (transportAll_sameIds s events) hsilent
  rwa [List.append_nil] at hnext

/-- A connection gets the next id, or is turned away. -/
theorem Accounted.acceptConnection (h : Accounted s past) (capacity : ℕ)
    (services : Option (List (String × ServiceConfig))) :
    Accounted (s.acceptConnection capacity services).1
      (past ++ (s.acceptConnection capacity services).2) := by
  unfold RpcServicesMuxServer.acceptConnection
  split_ifs with hfull
  · exact h.same (.refl s) ⟨rfl, rfl⟩
  · cases services with
    | none =>
        constructor
        · simpa [ids] using h.ledger.issue
        · intro id hid
          exact List.mem_append_left _ (h.accepted id hid)
    | some services =>
        constructor
        · simpa [ids] using h.ledger.issueLive
        · intro id hid
          simp only [ids, List.map_append, List.map_cons, List.map_nil,
            List.mem_append, List.mem_singleton] at hid
          rcases hid with hid | rfl
          · exact List.mem_append_left _ (h.accepted id hid)
          · exact List.mem_append_right _ (List.mem_singleton_self _)

theorem Accounted.acceptNewConnections (h : Accounted s past) (capacity : ℕ)
    (arrivals : List Arrival) :
    Accounted (acceptNewConnections capacity s arrivals).1
      (past ++ (acceptNewConnections capacity s arrivals).2) := by
  induction arrivals generalizing s past with
  | nil => simpa [RpcServicesMuxServer.acceptNewConnections] using h
  | cons arrival rest ih =>
      rw [RpcServicesMuxServer.acceptNewConnections]
      dsimp only
      rw [← List.append_assoc]
      refine ih ?_
      have harrived := h.transportAll arrival.before
      split_ifs with hpresent
      · exact harrived.acceptConnection capacity arrival.services
      · simpa using harrived

/-- The slots that are taken out are closed. -/
theorem Accounted.cleanupDisconnected (h : Accounted s past) :
    Accounted s.cleanupDisconnected.1 (past ++ s.cleanupDisconnected.2) := by
  have hclosed : s.cleanupDisconnected.2 =
      ((s.slots.filter (·.disconnected)).map (·.connectionId)).map
        MuxObs.closed := by
    rw [List.map_map]
    rfl
  constructor
  · rw [hclosed, acceptedIds_append, closedIds_append, acceptedIds_closed,
      closedIds_closed, List.append_nil]
    refine h.ledger.retire ?_
    have hperm := (List.filter_append_perm (fun slot : ConnectionSlot =>
      slot.disconnected) s.slots).map (·.connectionId)
    rw [List.map_append] at hperm
    have hrest : s.cleanupDisconnected.1.ids =
        (s.slots.filter fun slot => !slot.disconnected).map
          (·.connectionId) := by
      simp [ids, RpcServicesMuxServer.cleanupDisconnected]
    rw [hrest]
    exact (List.perm_append_comm.trans hperm).subperm
  · intro id hid
    refine List.mem_append_left _ (h.accepted id ?_)
    exact (List.filter_sublist.map _).subset hid

/-- Polling the slots changes none of the ids, and what is found comes from one
of the slots. -/
theorem pollSlots_spec (C : RpcConvertors) (env : ℕ → SlotEnv)
    (s : RpcServicesMuxServer) (places : List ℕ) :
    let o := pollSlots C env s places
    SameIds s o.state ∧ Silent o.effects ∧
      ∀ event request, o.result = some (event, request) →
        request.connectionId ∈ o.state.ids := by
  induction places generalizing s with
  | nil => exact ⟨.refl s, ⟨rfl, rfl⟩, nofun⟩
  | cons i rest ih =>
      have harrived := transportAll_sameIds s (env i).before
      rw [pollSlots]
      dsimp only
      generalize s.transportAll (env i).before = arrived at harrived ⊢
      cases hslot : arrived.slots[i]? with
      | none => exact ⟨harrived, ⟨rfl, rfl⟩, nofun⟩
      | some slot =>
          dsimp only
          generalize slot.server.poll C (env i).net (env i).candidate = o
          have hset : SameIds arrived
              { arrived with
                slots := arrived.slots.set i
                  { slot with server := o.state } } :=
            ⟨map_key_set hslot rfl, rfl⟩
          split_ifs with hnone
          · refine ⟨harrived.trans hset, silent_sent _ _, ?_⟩
            rintro event request ⟨⟩
            rw [hset.ids_eq]
            exact List.mem_map_of_mem (List.mem_of_getElem? hslot)
          · obtain ⟨hsame, hsilent, hresult⟩ := ih
              { arrived with
                slots := arrived.slots.set i { slot with server := o.state } }
            refine ⟨(harrived.trans hset).trans hsame, ?_, hresult⟩
            have hsent := silent_sent slot.connectionId o.effects
            constructor
            · rw [acceptedIds_append, hsent.1, hsilent.1]
              rfl
            · rw [closedIds_append, hsent.2, hsilent.2]
              rfl

theorem Accounted.poll (h : Accounted s past) (C : RpcConvertors)
    (env : PollEnv) :
    let o := s.poll C env
    Accounted o.state (past ++ o.effects) ∧
      ∀ event request, o.result = some (event, request) →
        request.connectionId ∈ o.state.ids := by
  have hidle : Accounted s (past ++ []) := by rwa [List.append_nil]
  unfold RpcServicesMuxServer.poll
  by_cases hstarted : s.started = true
  swap
  · rw [if_pos hstarted]
    exact ⟨hidle, nofun⟩
  · rw [if_neg (not_not_intro hstarted)]
    cases s.mux with
    | none => exact ⟨hidle, nofun⟩
    | some capacity =>
        dsimp only
        have haccepted := h.acceptNewConnections capacity env.arrivals
        generalize RpcServicesMuxServer.acceptNewConnections capacity s
          env.arrivals = accepted at haccepted ⊢
        have hfirst :=
          (haccepted.transportAll env.beforeFirstPass).cleanupDisconnected
        generalize (accepted.1.transportAll
          env.beforeFirstPass).cleanupDisconnected = first at hfirst ⊢
        obtain ⟨hsame, hsilent, hresult⟩ := pollSlots_spec C env.slot first.1
          (List.range first.1.slots.length)
        have hpolled := hfirst.same hsame hsilent
        generalize pollSlots C env.slot first.1
          (List.range first.1.slots.length) = polled
            at hpolled hresult ⊢
        split_ifs with hsome
        · refine ⟨?_, hresult⟩
          simpa only [List.append_assoc] using hpolled
        · refine ⟨?_, nofun⟩
          have hlast :=
            (hpolled.transportAll env.beforeLastPass).cleanupDisconnected
          simpa only [List.append_assoc] using hlast

theorem Accounted.stop (h : Accounted s past) :
    Accounted s.stop.1 (past ++ s.stop.2) := by
  have hclosed : s.stop.2 = s.ids.map MuxObs.closed := by
    rw [ids, List.map_map]
    rfl
  constructor
  · rw [hclosed, acceptedIds_append, closedIds_append, acceptedIds_closed,
      closedIds_closed, List.append_nil]
    exact h.ledger.retire (List.Subperm.refl _)
  · exact nofun

theorem Accounted.startMux (h : Accounted s past) (ok : Bool) :
    Accounted (s.startMux ok).1 past := by
  unfold RpcServicesMuxServer.startMux
  split_ifs
  · exact h
  · exact h
  · exact ⟨h.ledger, h.accepted⟩

theorem accounted_initializeMux (expectedCount : Option ℕ) :
    Accounted (initializeMux {} expectedCount).1 [] := by
  have hempty : Accounted {} [] := ⟨.empty, nofun⟩
  cases expectedCount with
  | none => exact hempty
  | some count =>
      simp only [initializeMux, Option.isSome_none, Bool.false_eq_true,
        if_false]
      split_ifs
      · exact hempty
      · exact ⟨.empty, nofun⟩

/-- A connection with a slot is known by its id and was not closed. -/
theorem Accounted.isOpen_of_mem (h : Accounted s past)
    (hids : (acceptedIds past).Nodup) {id : UInt64} (hid : id ∈ s.ids) :
    MuxObs.accepted id true ∈ past ∧ MuxObs.closed id ∉ past := by
  refine ⟨h.accepted id hid, ?_⟩
  rw [← mem_closedIds]
  exact List.disjoint_of_nodup_append (h.ledger.nodup_live hids) hid

end RpcServicesMuxServer

/-! ## The handle -/

namespace HandleObs

/-- What the multiplexer does. -/
def mux? : HandleObs → Option MuxObs
  | .mux obs => some obs
  | _ => none

/-- The token that is handed out. -/
def issuedToken? : HandleObs → Option UInt64
  | .polled token _ _ => some token
  | _ => none

/-- The token of a reply that is passed on. -/
def passedToken? : HandleObs → Option UInt64
  | .passed token _ => some token
  | _ => none

end HandleObs

/-- What the multiplexer did. -/
def muxObs (past : List HandleObs) : List MuxObs :=
  past.filterMap HandleObs.mux?

/-- The tokens handed out. -/
def issuedTokens (past : List HandleObs) : List UInt64 :=
  past.filterMap HandleObs.issuedToken?

/-- The tokens of the replies that were passed on. -/
def passedTokens (past : List HandleObs) : List UInt64 :=
  past.filterMap HandleObs.passedToken?

@[simp] theorem muxObs_append (l l' : List HandleObs) :
    muxObs (l ++ l') = muxObs l ++ muxObs l' := List.filterMap_append

@[simp] theorem issuedTokens_append (l l' : List HandleObs) :
    issuedTokens (l ++ l') = issuedTokens l ++ issuedTokens l' :=
  List.filterMap_append

@[simp] theorem passedTokens_append (l l' : List HandleObs) :
    passedTokens (l ++ l') = passedTokens l ++ passedTokens l' :=
  List.filterMap_append

@[simp] theorem muxObs_mux (l : List MuxObs) :
    muxObs (l.map HandleObs.mux) = l := by
  simp [muxObs, List.filterMap_map, Function.comp_def, HandleObs.mux?]

@[simp] theorem issuedTokens_mux (l : List MuxObs) :
    issuedTokens (l.map HandleObs.mux) = [] := by
  simp [issuedTokens, List.filterMap_map, Function.comp_def,
    HandleObs.issuedToken?]

@[simp] theorem passedTokens_mux (l : List MuxObs) :
    passedTokens (l.map HandleObs.mux) = [] := by
  simp [passedTokens, List.filterMap_map, Function.comp_def,
    HandleObs.passedToken?]

/-- Observations without a step of the multiplexer and without a token. -/
structure Unheard (l : List HandleObs) : Prop where
  mux : muxObs l = []
  issued : issuedTokens l = []
  passed : passedTokens l = []

theorem mem_muxObs {obs : MuxObs} {past : List HandleObs} :
    obs ∈ muxObs past ↔ HandleObs.mux obs ∈ past := by
  rw [muxObs, List.mem_filterMap]
  constructor
  · rintro ⟨o, ho, hobs⟩
    cases o with
    | mux obs' =>
        rw [Option.some.inj hobs] at ho
        exact ho
    | polled | untaken | passed | failed => cases hobs
  · intro h
    exact ⟨_, h, rfl⟩

namespace RpcMuxServerHandle

variable {C : RpcConvertors} {h : RpcMuxServerHandle}
  {past : List HandleObs} {net : String → PduEndpoint} {kind : ReplyKind}
  {token : UInt64} {pdu : PduData}

/-- What is known of a handle, given what has been seen so far. -/
structure Accounted (h : RpcMuxServerHandle) (past : List HandleObs) :
    Prop where
  mux : ∃ s, RpcServicesMuxServer.Accounted s (muxObs past) ∧
    ∀ rpc, h.rpc = some rpc → rpc = s
  ledger : Ledger h.nextToken (h.pendingRequests.map Prod.fst)
    (issuedTokens past) (passedTokens past)
  polled : ∀ entry ∈ h.pendingRequests,
    ∃ event, HandleObs.polled entry.1 event entry.2 ∈ past

theorem Accounted.rpc (hh : Accounted h past) {rpc : RpcServicesMuxServer}
    (hrpc : h.rpc = some rpc) :
    RpcServicesMuxServer.Accounted rpc (muxObs past) := by
  obtain ⟨s, hs, heq⟩ := hh.mux
  rw [heq rpc hrpc]
  exact hs

/-- The multiplexer moves, the requests stay. -/
theorem Accounted.moved (hh : Accounted h past) {rpc : RpcServicesMuxServer}
    {l : List MuxObs}
    (hrpc : RpcServicesMuxServer.Accounted rpc (muxObs past ++ l)) :
    Accounted { h with rpc := some rpc } (past ++ l.map HandleObs.mux) where
  mux := by
    refine ⟨rpc, ?_, ?_⟩
    · rwa [muxObs_append, muxObs_mux]
    · intro rpc' heq
      exact (Option.some.inj heq).symm
  ledger := by
    rw [issuedTokens_append, passedTokens_append, issuedTokens_mux,
      passedTokens_mux, List.append_nil, List.append_nil]
    exact hh.ledger
  polled := by
    intro entry hentry
    obtain ⟨event, hevent⟩ := hh.polled entry hentry
    exact ⟨event, List.mem_append_left _ hevent⟩

theorem Accounted.unheard (hh : Accounted h past) {l : List HandleObs}
    (hl : Unheard l) : Accounted h (past ++ l) where
  mux := by
    rw [muxObs_append, hl.mux, List.append_nil]
    exact hh.mux
  ledger := by
    rw [issuedTokens_append, passedTokens_append, hl.issued, hl.passed,
      List.append_nil, List.append_nil]
    exact hh.ledger
  polled := by
    intro entry hentry
    obtain ⟨event, hevent⟩ := hh.polled entry hentry
    exact ⟨event, List.mem_append_left _ hevent⟩

/-- A request is handed out with the next token. -/
theorem Accounted.storeRequest (hh : Accounted h past)
    (event : ServerEventType) (request : RpcMuxRequest) :
    Accounted (h.storeRequest request)
      (past ++ [.polled h.nextToken event request]) where
  mux := by
    have hmux : muxObs [.polled h.nextToken event request] = [] := rfl
    rw [muxObs_append, hmux, List.append_nil]
    exact hh.mux
  ledger := by
    have hissued : issuedTokens [.polled h.nextToken event request] =
        [h.nextToken] := rfl
    have hpassed : passedTokens [.polled h.nextToken event request] = [] := rfl
    rw [issuedTokens_append, passedTokens_append, hissued, hpassed,
      List.append_nil]
    simp only [RpcMuxServerHandle.storeRequest]
    split_ifs with hstored
    · exact hh.ledger.issue
    · rw [List.map_append]
      exact hh.ledger.issueLive
  polled := by
    have hold : ∀ entry ∈ h.pendingRequests, ∃ event', HandleObs.polled
        entry.1 event' entry.2 ∈ past ++ [.polled h.nextToken event request] := by
      intro entry hentry
      obtain ⟨event', hevent⟩ := hh.polled entry hentry
      exact ⟨event', List.mem_append_left _ hevent⟩
    intro entry hentry
    simp only [RpcMuxServerHandle.storeRequest] at hentry
    split_ifs at hentry with hstored
    · exact hold entry hentry
    · rcases List.mem_append.mp hentry with hentry | hentry
      · exact hold entry hentry
      · rw [List.mem_singleton.mp hentry]
        exact ⟨event, List.mem_append_right _ (List.mem_singleton_self _)⟩

/-- Requests are forgotten. -/
theorem Accounted.forget (hh : Accounted h past)
    {pending : List (UInt64 × RpcMuxRequest)}
    (hpending : pending.Sublist h.pendingRequests) :
    Accounted { h with pendingRequests := pending } past where
  mux := hh.mux
  ledger := by
    have hgone : (pending.map Prod.fst ++ []).Subperm
        (h.pendingRequests.map Prod.fst) := by
      rw [List.append_nil]
      exact (hpending.map Prod.fst).subperm
    have hledger := hh.ledger.retire hgone
    rwa [List.append_nil] at hledger
  polled entry hentry := hh.polled entry (hpending.subset hentry)

/-- A stored request is taken out and its reply is passed on. -/
theorem Accounted.pass (hh : Accounted h past)
    {entry : UInt64 × RpcMuxRequest} (id : UInt64)
    (hentry : lookup Prod.fst token h.pendingRequests = some entry) :
    Accounted
      { h with pendingRequests := removeFirst Prod.fst token h.pendingRequests }
      (past ++ [.passed token id]) where
  mux := by
    have hmux : muxObs [.passed token id] = [] := rfl
    rw [muxObs_append, hmux, List.append_nil]
    exact hh.mux
  ledger := by
    have hissued : issuedTokens [.passed token id] = [] := rfl
    have hpassed : passedTokens [.passed token id] = [token] := rfl
    rw [issuedTokens_append, passedTokens_append, hissued, hpassed,
      List.append_nil]
    refine hh.ledger.retire ?_
    have hperm := (perm_removeFirst hentry).map Prod.fst
    rw [List.map_cons, lookup_key hentry] at hperm
    exact ((List.perm_append_singleton _ _).trans hperm).subperm
  polled := by
    intro other hother
    obtain ⟨event, hevent⟩ := hh.polled other (List.eraseP_subset hother)
    exact ⟨event, List.mem_append_left _ hevent⟩

/-! ## Replies -/

/-- A reply that fails. -/
structure Refused (h : RpcMuxServerHandle) (token : UInt64)
    (o : Outcome RpcMuxServerHandle HandleObs RpcError) : Prop where
  result_ne : o.result ≠ .ok
  rpc_eq : o.state.rpc = h.rpc
  nextToken_eq : o.state.nextToken = h.nextToken
  pending : o.state.pendingRequests.Sublist h.pendingRequests
  effects_eq : o.effects = [.failed token]

/-- A reply that is passed on to the services of a slot, whose answer is
`reply`. -/
structure PassedOn (h : RpcMuxServerHandle) (token : UInt64)
    (o : Outcome RpcMuxServerHandle HandleObs RpcError)
    (rpc : RpcServicesMuxServer) (request : RpcMuxRequest)
    (slot : ConnectionSlot) (reply : Outcome RpcServicesServer Sent Unit) :
    Prop where
  rpc_eq : h.rpc = some rpc
  stored : lookup Prod.fst token h.pendingRequests = some (token, request)
  found : rpc.findSlot request.connectionId = some slot
  result_eq : o.result = .ok
  state_eq : o.state =
    { h with
      rpc := some
        { rpc with
          slots := modifyFirst (·.connectionId) request.connectionId
            (fun slot => { slot with server := reply.state }) rpc.slots }
      pendingRequests := removeFirst Prod.fst token h.pendingRequests }
  effects_eq : o.effects = .passed token request.connectionId ::
    (reply.effects.map (MuxObs.sent request.connectionId)).map HandleObs.mux

/-- What a reply can do. -/
theorem answer_cases (h : RpcMuxServerHandle) (net : String → PduEndpoint)
    (kind : ReplyKind) (token : UInt64) (pdu : PduData) :
    Refused h token (h.answer net kind token pdu) ∨
      ∃ rpc request slot, PassedOn h token (h.answer net kind token pdu) rpc
        request slot
        (slot.server.answer kind net request.request.header pdu) := by
  unfold answer
  cases hstarted : h.started with
  | false => exact .inl ⟨nofun, rfl, rfl, List.Sublist.refl _, rfl⟩
  | true =>
      cases hrpc : h.rpc with
      | none => exact .inl ⟨nofun, rfl, rfl, List.Sublist.refl _, rfl⟩
      | some rpc =>
          dsimp only
          unfold takeRequest
          cases hentry : lookup Prod.fst token h.pendingRequests with
          | none => exact .inl ⟨nofun, rfl, rfl, List.Sublist.refl _, rfl⟩
          | some entry =>
              obtain ⟨key, request⟩ := entry
              obtain rfl : key = token := lookup_key hentry
              dsimp only
              unfold RpcServicesMuxServer.sendReply
              cases hslot : rpc.findSlot request.connectionId with
              | none =>
                  exact .inl ⟨nofun, hrpc.symm, rfl, List.eraseP_sublist, rfl⟩
              | some slot =>
                  refine .inr ⟨rpc, request, slot, ?_⟩
                  exact ⟨hrpc, hentry, hslot, rfl, rfl, rfl⟩

theorem Refused.accounted {o : Outcome RpcMuxServerHandle HandleObs RpcError}
    (ho : Refused h token o) (hh : Accounted h past) :
    Accounted o.state (past ++ o.effects) := by
  have hforgot := (hh.forget ho.pending).unheard (l := [.failed token])
    ⟨rfl, rfl, rfl⟩
  rw [ho.effects_eq]
  refine ⟨?_, ?_, hforgot.polled⟩
  · rw [ho.rpc_eq]
    exact hforgot.mux
  · rw [ho.nextToken_eq]
    exact hforgot.ledger

section PassedOn

variable {o : Outcome RpcMuxServerHandle HandleObs RpcError}
  {rpc : RpcServicesMuxServer} {request : RpcMuxRequest}
  {slot : ConnectionSlot} {reply : Outcome RpcServicesServer Sent Unit}

/-- The slots keep their ids. -/
theorem PassedOn.sameIds (id : UInt64) (server : RpcServicesServer)
    (rpc : RpcServicesMuxServer) :
    rpc.SameIds
      { rpc with
        slots := modifyFirst (·.connectionId) id
          (fun slot => { slot with server := server }) rpc.slots } := by
  refine ⟨?_, rfl⟩
  apply map_key_modifyFirst
  exact fun _ hid => hid

theorem PassedOn.accounted (ho : PassedOn h token o rpc request slot reply)
    (hh : Accounted h past) : Accounted o.state (past ++ o.effects) := by
  have hpassed := hh.pass request.connectionId ho.stored
  have hrpc := (hpassed.rpc ho.rpc_eq).same
    (PassedOn.sameIds request.connectionId reply.state rpc)
    (silent_sent request.connectionId reply.effects)
  have hmoved := hpassed.moved hrpc
  rw [List.append_assoc] at hmoved
  rw [ho.state_eq, ho.effects_eq]
  exact hmoved

end PassedOn

/-! ## Runs -/

theorem Accounted.start (hh : Accounted h past) (ok : Bool) :
    Accounted (h.start ok) past := by
  unfold RpcMuxServerHandle.start
  split_ifs
  · exact hh
  · cases hrpc : h.rpc with
    | none => exact hh
    | some rpc =>
        have hstarted := (hh.rpc hrpc).startMux ok
        rw [← List.append_nil (muxObs past)] at hstarted
        have hmoved := hh.moved hstarted
        rw [List.map_nil, List.append_nil] at hmoved
        exact ⟨hmoved.mux, hmoved.ledger, hmoved.polled⟩

theorem Accounted.stop (hh : Accounted h past) :
    Accounted h.stop.1 (past ++ h.stop.2) := by
  have hforgot := hh.forget (List.nil_sublist h.pendingRequests)
  unfold RpcMuxServerHandle.stop
  cases hrpc : h.rpc with
  | none =>
      dsimp only
      rw [List.append_nil]
      obtain ⟨s, hs, -⟩ := hforgot.mux
      exact ⟨⟨s, hs, nofun⟩, hforgot.ledger, nofun⟩
  | some rpc =>
      have hmoved := hforgot.moved (hh.rpc hrpc).stop
      obtain ⟨s, hs, -⟩ := hmoved.mux
      exact ⟨⟨s, hs, nofun⟩, hmoved.ledger, nofun⟩

theorem Accounted.poll (hh : Accounted h past) (C : RpcConvertors)
    (env : PollEnv) (delivery : Delivery) :
    Accounted (h.poll C env delivery).1
      (past ++ (h.poll C env delivery).2) := by
  have hidle : Accounted h (past ++ []) := by rwa [List.append_nil]
  unfold RpcMuxServerHandle.poll
  cases hstarted : h.started with
  | false => exact hidle
  | true =>
      cases hrpc : h.rpc with
      | none => exact hidle
      | some rpc =>
          have hmoved := hh.moved ((hh.rpc hrpc).poll C env).1
          rw [hstarted] at hmoved
          dsimp only
          cases hresult : (rpc.poll C env).result with
          | none => exact hmoved
          | some found =>
              dsimp only
              split_ifs with htaken
              · have hstored := hmoved.storeRequest found.1 found.2
                rw [List.append_assoc] at hstored
                exact hstored
              · have huntaken := hmoved.unheard (l := [.untaken found.2])
                  ⟨rfl, rfl, rfl⟩
                rw [List.append_assoc] at huntaken
                exact huntaken

/-- Every step keeps the account. -/
theorem Accounted.step (hh : Accounted h past) (i : Input) :
    Accounted ((machine C).step h i).1 (past ++ ((machine C).step h i).2) := by
  cases i with
  | transport event =>
      simp only [machine, List.append_nil]
      obtain ⟨s, hs, heq⟩ := hh.mux
      refine ⟨⟨s.transport event, hs.transportAll [event], ?_⟩, hh.ledger,
        hh.polled⟩
      intro rpc hrpc
      obtain ⟨rpc', hrpc', rfl⟩ := Option.map_eq_some_iff.mp hrpc
      rw [heq rpc' hrpc']
  | start ok => simpa only [machine, List.append_nil] using hh.start ok
  | stop => exact hh.stop
  | poll env delivery => exact hh.poll C env delivery
  | answer net kind token pdu =>
      rcases answer_cases h net kind token pdu with
        ho | ⟨rpc, request, slot, ho⟩
      · exact ho.accounted hh
      · exact ho.accounted hh

theorem accounted_create {expectedCount : Option ℕ}
    (hcreate : create expectedCount = some h) : Accounted h [] := by
  unfold create at hcreate
  have hempty := RpcServicesMuxServer.accounted_initializeMux expectedCount
  generalize RpcServicesMuxServer.initializeMux {} expectedCount = rpc
    at hcreate hempty
  dsimp only at hcreate
  split_ifs at hcreate
  obtain rfl := Option.some.inj hcreate
  refine ⟨⟨rpc.1, hempty, ?_⟩, .empty, nofun⟩
  rintro rpc' ⟨⟩
  rfl

theorem accounted_run {expectedCount : Option ℕ}
    (hcreate : create expectedCount = some h) (is : List Input) :
    Accounted ((machine C).run h is) ((machine C).trace h is) :=
  (machine C).trace_invariant (C := fun _ _ => True)
    (fun _ _ i _ hh => hh.step i) (accounted_create hcreate)
    ((machine C).along_of_forall (fun _ _ _ => trivial) h)

/-- The connection with this id was accepted and has not been closed. -/
def IsOpen (past : List HandleObs) (id : UInt64) : Prop :=
  .mux (.accepted id true) ∈ past ∧ .mux (.closed id) ∉ past

/-- A reply changes the services of one connection and no others. -/
structure ReachesOnly (rpc rpc' : RpcServicesMuxServer) (id : UInt64)
    (answer : RpcServicesServer → RpcServicesServer) : Prop where
  ids_nodup : rpc.ids.Nodup
  ids_eq : rpc'.ids = rpc.ids
  own : ∃ slot, rpc.findSlot id = some slot ∧
    rpc'.findSlot id = some { slot with server := answer slot.server }
  others : ∀ other, other ≠ id → rpc'.findSlot other = rpc.findSlot other

/-- What a reply does, after what has been seen. -/
structure AnswersItsConnection (h : RpcMuxServerHandle) (past : List HandleObs)
    (net : String → PduEndpoint) (kind : ReplyKind) (token : UInt64)
    (pdu : PduData) : Prop where
  unknown : token ∉ issuedTokens past →
    (h.answer net kind token pdu).result ≠ .ok
  again : token ∈ passedTokens past →
    (h.answer net kind token pdu).result ≠ .ok
  gone : ∀ event request, .polled token event request ∈ past →
    .mux (.closed request.connectionId) ∈ past →
      (h.answer net kind token pdu).result ≠ .ok
  failed : (h.answer net kind token pdu).result ≠ .ok →
    (h.answer net kind token pdu).state.rpc = h.rpc ∧
      (h.answer net kind token pdu).effects = [.failed token]
  passed : (h.answer net kind token pdu).result = .ok →
    ∃ rpc rpc' event request, h.rpc = some rpc ∧
      (h.answer net kind token pdu).state.rpc = some rpc' ∧
      .polled token event request ∈ past ∧
      ReachesOnly rpc rpc' request.connectionId (fun server =>
        (server.answer kind net request.request.header pdu).state) ∧
      ∀ id sent, .mux (.sent id sent) ∈
        (h.answer net kind token pdu).effects → id = request.connectionId

/-- The run hands out every id and every token once, a token answers once, and a
reply goes to the connection that its request was polled from, while this
connection is open. -/
structure RoutesReplies (C : RpcConvertors) (h : RpcMuxServerHandle)
    (is : List Input) : Prop where
  ids_nodup : (acceptedIds (muxObs ((machine C).trace h is))).Nodup
  tokens_nodup : (issuedTokens ((machine C).trace h is)).Nodup
  passed_nodup : (passedTokens ((machine C).trace h is)).Nodup
  polled : ∀ before token event request after,
    (machine C).trace h is = before ++ .polled token event request :: after →
      IsOpen before request.connectionId
  passed : ∀ before token id after,
    (machine C).trace h is = before ++ .passed token id :: after →
      IsOpen before id ∧
        ∃ event request, .polled token event request ∈ before ∧
          request.connectionId = id
  answers : ∀ past net kind token pdu future,
    is = past ++ .answer net kind token pdu :: future →
      AnswersItsConnection ((machine C).run h past) ((machine C).trace h past)
        net kind token pdu

section Laws

variable (hh : Accounted h past)
  (hids : (acceptedIds (muxObs past)).Nodup)
  (htokens : (issuedTokens past).Nodup)

include hh hids in
theorem Accounted.isOpen {rpc : RpcServicesMuxServer} (hrpc : h.rpc = some rpc)
    {id : UInt64} (hid : id ∈ rpc.ids) : IsOpen past id := by
  obtain ⟨haccepted, hclosed⟩ := (hh.rpc hrpc).isOpen_of_mem hids hid
  rw [mem_muxObs] at haccepted hclosed
  exact ⟨haccepted, hclosed⟩

section PassedOn

variable {o : Outcome RpcMuxServerHandle HandleObs RpcError}
  {rpc : RpcServicesMuxServer} {request : RpcMuxRequest}
  {slot : ConnectionSlot} {reply : Outcome RpcServicesServer Sent Unit}
  (ho : PassedOn h token o rpc request slot reply)

include ho in
theorem PassedOn.mem_ids : request.connectionId ∈ rpc.ids := by
  have hid := lookup_key ho.found
  rw [← hid]
  exact List.mem_map_of_mem (lookup_mem ho.found)

include hh ho in
theorem PassedOn.polled :
    ∃ event, HandleObs.polled token event request ∈ past :=
  hh.polled _ (lookup_mem ho.stored)

include hh htokens ho in
/-- The token of a stored request was not answered before. -/
theorem PassedOn.notMem_passed : token ∉ passedTokens past := by
  have hnodup := hh.ledger.nodup_live htokens
  refine List.disjoint_of_nodup_append hnodup ?_
  exact List.mem_map_of_mem (lookup_mem ho.stored)

include ho in
theorem PassedOn.reachesOnly (hnodup : rpc.ids.Nodup)
    (answer : RpcServicesServer → RpcServicesServer)
    (hanswer : answer slot.server = reply.state) :
    ∃ rpc', o.state.rpc = some rpc' ∧
      ReachesOnly rpc rpc' request.connectionId answer := by
  refine ⟨_, congrArg RpcMuxServerHandle.rpc ho.state_eq, hnodup,
    (PassedOn.sameIds _ _ _).ids_eq, ⟨slot, ho.found, ?_⟩, ?_⟩
  · have hfound := ho.found
    unfold RpcServicesMuxServer.findSlot at hfound ⊢
    rw [lookup_modifyFirst, if_pos rfl, hfound, Option.map_some, hanswer]
    exact fun _ hid => hid
  · intro other hother
    unfold RpcServicesMuxServer.findSlot
    rw [lookup_modifyFirst, if_neg hother]
    exact fun _ hid => hid

end PassedOn

include hh hids htokens in
theorem Accounted.answers (net : String → PduEndpoint) (kind : ReplyKind)
    (token : UInt64) (pdu : PduData) :
    AnswersItsConnection h past net kind token pdu := by
  rcases answer_cases h net kind token pdu with ho | ⟨rpc, request, slot, ho⟩
  · exact
      { unknown := fun _ => ho.result_ne
        again := fun _ => ho.result_ne
        gone := fun _ _ _ _ => ho.result_ne
        failed := fun _ => ⟨ho.rpc_eq, ho.effects_eq⟩
        passed := fun hok => absurd hok ho.result_ne }
  · have hmux := hh.rpc ho.rpc_eq
    have hnodup := (hmux.ledger.nodup_live hids).of_append_left
    obtain ⟨event, hevent⟩ := ho.polled hh
    have hopen := hh.isOpen hids ho.rpc_eq ho.mem_ids
    obtain ⟨rpc', hrpc', hreaches⟩ := ho.reachesOnly hnodup
      (fun server => (server.answer kind net request.request.header pdu).state)
      rfl
    refine ⟨?_, ?_, ?_, ?_, ?_⟩
    · intro hunknown
      exact absurd (hh.ledger.mem_issued
        (List.mem_map_of_mem (lookup_mem ho.stored))) hunknown
    · intro hagain
      exact absurd hagain (ho.notMem_passed hh htokens)
    · intro event' request' hpolled hclosed
      have hsame := eq_of_nodup_filterMap htokens hevent hpolled rfl rfl
      simp only [HandleObs.polled.injEq, true_and] at hsame
      rw [← hsame.2] at hclosed
      exact absurd hclosed hopen.2
    · intro hfailed
      exact absurd ho.result_eq hfailed
    · intro hok
      refine ⟨rpc, rpc', event, request, ho.rpc_eq, hrpc', hevent, ?_, ?_⟩
      · exact hreaches
      · intro id sent hsent
        rw [ho.effects_eq] at hsent
        simp only [List.map_map, List.mem_cons, reduceCtorEq, List.mem_map,
          Function.comp_apply, HandleObs.mux.injEq, MuxObs.sent.injEq,
          false_or] at hsent
        obtain ⟨-, -, hid, -⟩ := hsent
        exact hid.symm

end Laws

/-! ## The steps that hand out tokens and use them -/

/-- What a poll can show. -/
theorem poll_cases (h : RpcMuxServerHandle) (C : RpcConvertors)
    (env : PollEnv) (delivery : Delivery) :
    (issuedTokens (h.poll C env delivery).2 = [] ∧
        passedTokens (h.poll C env delivery).2 = []) ∨
      ∃ rpc event request, h.rpc = some rpc ∧
        (rpc.poll C env).result = some (event, request) ∧
        (h.poll C env delivery).2 =
          (rpc.poll C env).effects.map HandleObs.mux ++
            [.polled h.nextToken event request] := by
  unfold RpcMuxServerHandle.poll
  cases hstarted : h.started with
  | false => exact .inl ⟨rfl, rfl⟩
  | true =>
      cases hrpc : h.rpc with
      | none => exact .inl ⟨rfl, rfl⟩
      | some rpc =>
          dsimp only
          cases hresult : (rpc.poll C env).result with
          | none => exact .inl ⟨issuedTokens_mux _, passedTokens_mux _⟩
          | some found =>
              dsimp only
              split_ifs with htaken
              · exact .inr ⟨rpc, found.1, found.2, rfl, hresult, rfl⟩
              · refine .inl ⟨?_, ?_⟩
                · rw [issuedTokens_append, issuedTokens_mux]
                  rfl
                · rw [passedTokens_append, passedTokens_mux]
                  rfl

/-- The token stands behind all that the multiplexer shows. -/
theorem polled_last {seen : List MuxObs} {pre post : List HandleObs}
    {token token' : UInt64} {event event' : ServerEventType}
    {request request' : RpcMuxRequest}
    (hobs : seen.map HandleObs.mux ++ [.polled token event request] =
      pre ++ .polled token' event' request' :: post) :
    pre = seen.map HandleObs.mux ∧ request = request' := by
  rcases List.append_eq_append_iff.mp hobs with
    ⟨rest, hpre, hrest⟩ | ⟨rest, hseen, hrest⟩
  · cases rest with
    | nil =>
        simp only [List.nil_append, List.cons.injEq,
          HandleObs.polled.injEq] at hrest
        exact ⟨by rw [hpre, List.append_nil], hrest.1.2.2⟩
    | cons obs rest => simp at hrest
  · cases rest with
    | nil =>
        simp only [List.nil_append, List.cons.injEq,
          HandleObs.polled.injEq] at hrest
        exact ⟨by rw [hseen, List.append_nil], hrest.1.2.2.symm⟩
    | cons obs rest =>
        rw [List.cons_append, List.cons.injEq] at hrest
        have hnone := issuedTokens_mux seen
        rw [hseen, issuedTokens_append, List.append_eq_nil_iff,
          ← hrest.1] at hnone
        cases hnone.2

theorem stop_tokens (h : RpcMuxServerHandle) :
    issuedTokens h.stop.2 = [] ∧ passedTokens h.stop.2 = [] := by
  unfold RpcMuxServerHandle.stop
  cases h.rpc with
  | none => exact ⟨rfl, rfl⟩
  | some rpc => exact ⟨issuedTokens_mux _, passedTokens_mux _⟩

/-- Tokens are handed out by `poll`. -/
theorem step_issuedTokens {i : Input}
    (hi : ∀ env delivery, i ≠ .poll env delivery) :
    issuedTokens ((machine C).step h i).2 = [] := by
  cases i with
  | transport event => rfl
  | start ok => rfl
  | stop => exact (stop_tokens h).1
  | poll env delivery => exact absurd rfl (hi env delivery)
  | answer net kind token pdu =>
      simp only [machine]
      rcases answer_cases h net kind token pdu with
        ho | ⟨rpc, request, slot, ho⟩
      · rw [ho.effects_eq]
        rfl
      · rw [ho.effects_eq]
        exact issuedTokens_mux _

/-- Replies are passed on by the two sending functions. -/
theorem step_passedTokens {i : Input}
    (hi : ∀ net kind token pdu, i ≠ .answer net kind token pdu) :
    passedTokens ((machine C).step h i).2 = [] := by
  cases i with
  | transport event => rfl
  | start ok => rfl
  | stop => exact (stop_tokens h).2
  | poll env delivery =>
      rcases poll_cases h C env delivery with hpoll | hpoll
      · exact hpoll.2
      · obtain ⟨rpc, event, request, -, -, hobs⟩ := hpoll
        simp only [machine]
        rw [hobs, passedTokens_append, passedTokens_mux]
        rfl
  | answer net kind token pdu => exact absurd rfl (hi net kind token pdu)

section Laws

variable (hh : Accounted h past)
  (hids : (acceptedIds (muxObs past)).Nodup)

include hh in
/-- A step that hands out a request takes it from an open connection. -/
theorem Accounted.polled_step {i : Input} {pre post : List HandleObs}
    {event : ServerEventType} {request : RpcMuxRequest}
    (hids : (acceptedIds (muxObs
      (past ++ ((machine C).step h i).2))).Nodup)
    (hobs : ((machine C).step h i).2 =
      pre ++ .polled token event request :: post) :
    IsOpen (past ++ pre) request.connectionId := by
  have hissued : token ∈ issuedTokens ((machine C).step h i).2 := by
    rw [hobs, issuedTokens_append]
    exact List.mem_append_right _ (List.mem_cons_self ..)
  cases i with
  | poll env delivery =>
      rcases poll_cases h C env delivery with hpoll | hpoll
      · simp only [machine] at hissued
        rw [hpoll.1] at hissued
        cases hissued
      · obtain ⟨rpc, event', request', hrpc, hresult, hseen⟩ := hpoll
        obtain ⟨hmoved, hfound⟩ := (hh.rpc hrpc).poll C env
        simp only [machine] at hobs hids
        rw [hseen] at hobs hids
        obtain ⟨rfl, rfl⟩ := polled_last hobs
        have hlast : muxObs [.polled h.nextToken event' request'] = [] := rfl
        rw [muxObs_append, muxObs_append, muxObs_mux, hlast,
          List.append_nil] at hids
        have hknown := hmoved.isOpen_of_mem hids
          (hfound event' request' hresult)
        rw [← muxObs_mux (rpc.poll C env).effects, ← muxObs_append,
          mem_muxObs, mem_muxObs] at hknown
        exact hknown
  | transport | start | stop | answer =>
      rw [step_issuedTokens (by rintro _ _ ⟨⟩)] at hissued
      cases hissued

include hh hids in
/-- A step that passes on a reply has taken the request from the table. -/
theorem Accounted.passed_step {i : Input} {pre post : List HandleObs}
    {id : UInt64}
    (hobs : ((machine C).step h i).2 = pre ++ .passed token id :: post) :
    pre = [] ∧ IsOpen past id ∧
      ∃ event request, .polled token event request ∈ past ∧
        request.connectionId = id := by
  have hpassed : token ∈ passedTokens ((machine C).step h i).2 := by
    rw [hobs, passedTokens_append]
    exact List.mem_append_right _ (List.mem_cons_self ..)
  cases i with
  | answer net kind token' pdu =>
      simp only [machine] at hobs hpassed
      rcases answer_cases h net kind token' pdu with
        ho | ⟨rpc, request, slot, ho⟩
      · rw [ho.effects_eq] at hpassed
        cases hpassed
      · rw [ho.effects_eq] at hobs
        obtain ⟨event, hevent⟩ := ho.polled hh
        cases pre with
        | nil =>
            simp only [List.nil_append, List.cons.injEq,
              HandleObs.passed.injEq] at hobs
            obtain ⟨⟨rfl, rfl⟩, -⟩ := hobs
            exact ⟨rfl, hh.isOpen hids ho.rpc_eq ho.mem_ids, event, request,
              hevent, rfl⟩
        | cons first pre =>
            -- the rest is what the multiplexer shows
            rw [List.cons_append, List.cons.injEq] at hobs
            have hnone := passedTokens_mux (((slot.server.answer kind net
              request.request.header pdu).effects.map
                (MuxObs.sent request.connectionId)))
            rw [hobs.2, passedTokens_append, List.append_eq_nil_iff] at hnone
            cases hnone.2
  | transport | start | stop | poll =>
      rw [step_passedTokens (by rintro _ _ _ _ ⟨⟩)] at hpassed
      cases hpassed

end Laws

end RpcMuxServerHandle

open RpcMuxServerHandle in
/-- As long as the counters have not gone round, a reply that is made with a
token is passed on to the connection of its request, once, or fails and changes
nothing. -/
theorem replies_reach_their_connection (C : RpcConvertors)
    (expectedCount : Option ℕ) (h : RpcMuxServerHandle)
    (hcreate : create expectedCount = some h)
    (is : List RpcMuxServerHandle.Input)
    (hids : (acceptedIds (muxObs
      ((RpcMuxServerHandle.machine C).trace h is))).length ≤ 2 ^ 64)
    (htokens : (issuedTokens
      ((RpcMuxServerHandle.machine C).trace h is)).length ≤ 2 ^ 64) :
    RoutesReplies C h is := by
  have hh := accounted_run (C := C) hcreate is
  obtain ⟨s, hs, -⟩ := hh.mux
  have hidsNodup := hs.ledger.nodup hids
  have htokensNodup := hh.ledger.nodup htokens
  -- what is distinct along the run is distinct along its beginnings
  have hbegin : ∀ past future, is = past ++ future →
      (acceptedIds (muxObs
          ((RpcMuxServerHandle.machine C).trace h past))).Nodup ∧
        (issuedTokens
          ((RpcMuxServerHandle.machine C).trace h past)).Nodup := by
    rintro past future rfl
    rw [Machine.trace_append, muxObs_append, acceptedIds_append] at hidsNodup
    rw [Machine.trace_append, issuedTokens_append] at htokensNodup
    exact ⟨hidsNodup.of_append_left, htokensNodup.of_append_left⟩
  refine ⟨hidsNodup, htokensNodup,
    (hh.ledger.nodup_live htokensNodup).of_append_right, ?_, ?_, ?_⟩
  · intro before token event request after htrace
    obtain ⟨past, i, future, pre, post, rfl, hobs, rfl⟩ :=
      Machine.exists_step_of_trace _ htrace
    have hstep := hbegin (past ++ [i]) future (by simp)
    rw [Machine.trace_append] at hstep
    simp only [Machine.trace_cons, Machine.trace_nil, List.append_nil] at hstep
    exact (accounted_run hcreate past).polled_step hstep.1 hobs
  · intro before token id after htrace
    obtain ⟨past, i, future, pre, post, rfl, hobs, rfl⟩ :=
      Machine.exists_step_of_trace _ htrace
    obtain ⟨rfl, hopen, hpolled⟩ := (accounted_run hcreate past).passed_step
      (hbegin past _ rfl).1 hobs
    rw [List.append_nil]
    exact ⟨hopen, hpolled⟩
  · rintro past net kind token pdu future rfl
    obtain ⟨hids', htokens'⟩ := hbegin past _ rfl
    exact (accounted_run hcreate past).answers hids' htokens' net kind token pdu

namespace ServiceLayout

/-- A poll that meets a new connection, with its services. -/
def arrivalEnv (services : Option (List (String × ServiceConfig))) :
    PollEnv where
  arrivals := [{ services := services }]
  slot _ := { net := fun _ => sampleNet, candidate := emptyRequest }

/-- A poll of a client that is able to connect. -/
def connect : RpcMuxServerHandle.Input :=
  .poll (arrivalEnv (some [("Add", serviceConfig)])) (.buffer (some 400))

/-- A poll without a new connection. -/
def quietPoll : RpcMuxServerHandle.Input :=
  .poll { arrivalEnv none with arrivals := [] } (.buffer (some 400))

/-- A client makes a request, loses its connection and connects again.  The
answer to the request fails, the answer to its next request does not, once. -/
def reconnectRun : List RpcMuxServerHandle.Input :=
  [.start true, connect,
    .transport (.receive 0 "Add" (servicePacket 1 operationRequest)), quietPoll,
    .transport (.disconnect 0), connect,
    .transport (.receive 0 "Add" (servicePacket 1 operationRequest)), quietPoll,
    .answer (fun _ => sampleNet) .reply 1 [1, 2, 3],
    .answer (fun _ => sampleNet) .reply 2 [1, 2, 3],
    .answer (fun _ => sampleNet) .reply 2 [1, 2, 3]]

/-- A handle for two connections. -/
def muxHandle : RpcMuxServerHandle where
  rpc := some { mux := some 2 }

end ServiceLayout

open RpcMuxServerHandle ServiceLayout in
theorem reconnectRun_routes :
    RoutesReplies layoutConvertors muxHandle reconnectRun ∧
      let trace := (RpcMuxServerHandle.machine layoutConvertors).trace muxHandle
        reconnectRun
      acceptedIds (muxObs trace) = [1, 2] ∧ issuedTokens trace = [1, 2] ∧
        passedTokens trace = [2] :=
  ⟨replies_reach_their_connection layoutConvertors (some 2) muxHandle rfl
    reconnectRun (by decide +kernel) (by decide +kernel), by decide +kernel⟩

namespace ServiceLayout

open RpcMuxServerHandle

/-- The handle with one connection, before it hands out the id `next`. -/
def oneConnection (next : UInt64) : RpcMuxServerHandle where
  rpc := some
    { mux := some 2
      slots :=
        [{ connectionId := 1
           server := .initializeServices [("Add", serviceConfig)] none }]
      nextConnectionId := next
      started := true }
  started := true

/-- A poll of a client whose services do not come up. -/
def failToConnect : RpcMuxServerHandle.Input :=
  .poll (arrivalEnv none) (.buffer (some 400))

/-- Each attempt uses up an id. -/
theorem run_failToConnect (n : ℕ) (next : UInt64) :
    (RpcMuxServerHandle.machine layoutConvertors).run (oneConnection next)
      (List.replicate n failToConnect) =
        oneConnection (next + UInt64.ofNat n) := by
  induction n generalizing next with
  | zero => exact congrArg oneConnection (UInt64.add_zero next).symm
  | succ n ih =>
      have hstep : ((RpcMuxServerHandle.machine layoutConvertors).step
          (oneConnection next) failToConnect).1 = oneConnection (next + 1) := rfl
      rw [List.replicate_succ, Machine.run_cons, hstep, ih, UInt64.ofNat_add,
        UInt64.add_assoc, UInt64.add_comm 1]
      rfl

/-- A client connects, others fail to do so until the counter has gone round,
and another client connects. -/
def wrappedRun : List RpcMuxServerHandle.Input :=
  [.start true, connect] ++
    (List.replicate (2 ^ 64 - 1) failToConnect ++ [connect])

end ServiceLayout

open RpcMuxServerHandle ServiceLayout in
/-- The counter of the connections goes round. -/
theorem wrappedRun_repeats_id :
    create (some 2) = some muxHandle ∧
      ¬RoutesReplies layoutConvertors muxHandle wrappedRun := by
  refine ⟨rfl, ?_⟩
  intro hroutes
  have hids := hroutes.ids_nodup
  have hfirst : (RpcMuxServerHandle.machine layoutConvertors).run muxHandle
      [.start true, connect] = oneConnection 2 := rfl
  have hround : (2 : UInt64) + UInt64.ofNat (2 ^ 64 - 1) = 1 := rfl
  have hone : (RpcMuxServerHandle.machine layoutConvertors).trace muxHandle
      [.start true, connect] = [.mux (.accepted 1 true)] := rfl
  have htwo : (RpcMuxServerHandle.machine layoutConvertors).trace
      (oneConnection 1) [connect] = [.mux (.accepted 1 true)] := rfl
  rw [wrappedRun, Machine.trace_append, Machine.trace_append, hfirst,
    run_failToConnect, hround, hone, htwo, muxObs_append, muxObs_append,
    acceptedIds_append, acceptedIds_append] at hids
  have hmem : (1 : UInt64) ∈ acceptedIds (muxObs [.mux (.accepted 1 true)]) :=
    List.mem_singleton_self _
  exact List.disjoint_of_nodup_append hids hmem (List.mem_append_right _ hmem)

end Rpc
end HakoPduRpc
