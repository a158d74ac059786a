import HakoPduRpc.Rpc.MuxRouting

/-!
# When a connection is turned away

`accept_new_connections_` compares the number of the slots with the expected
count, and runs before the slots of lost connections are taken out.  So a lost
connection keeps its place until the next pass over the slots, and a client that
comes back before this pass is turned away although there is room for it.
-/

namespace HakoPduRpc
namespace Rpc
namespace RpcServicesMuxServer

/-! ## Runs of the multiplexer -/

/-- A step of the environment or of the application. -/
inductive Input
  | initializeMux (expectedCount : Option ℕ)
  | startMux (ok : Bool)
  | stop
  | transport (event : TransportEvent)
  | poll (env : PollEnv)
  | answer (net : String → PduEndpoint) (kind : ReplyKind)
      (request : RpcMuxRequest) (pdu : PduData)

/-- The multiplexer under its inputs. -/
def machine (C : RpcConvertors) : Machine RpcServicesMuxServer Input MuxObs where
  step s
    | .initializeMux expectedCount => ((s.initializeMux expectedCount).1, [])
    | .startMux ok => ((s.startMux ok).1, [])
    | .stop => s.stop
    | .transport event => (s.transport event, [])
    | .poll env =>
        let o := s.poll C env
        (o.state, o.effects)
    | .answer net kind request pdu =>
        let o := s.sendReply net kind request pdu
        (o.state, o.effects)

/-- A connection is turned away only when as many connections are live as are
expected. -/
def Justified : MuxObs → Prop
  | .turnedAway live expectedCount => live = expectedCount
  | _ => True

/-! ## Lost connections that are still in their place -/

/-- The disconnected flags of the slots. -/
def lostFlags (s : RpcServicesMuxServer) : List Bool :=
  s.slots.map (·.disconnected)

/-- The disconnected flags after what the transport does. -/
def markLost (lost : List Bool) (events : List TransportEvent) : List Bool :=
  events.foldl (fun lost event =>
    match event with
    | .receive _ _ _ => lost
    | .disconnect slot => lost.set slot true) lost

/-- No connection is lost when a client comes to a place that is taken: a
condition on the disconnected flags before a poll and on what the poll meets. -/
def Punctual (capacity : ℕ) : List Bool → List Arrival → Prop
  | _, [] => True
  | lost, arrival :: rest =>
      let lost := markLost lost arrival.before
      (arrival.present = true → capacity ≤ lost.length → true ∉ lost) ∧
        Punctual capacity
          (if arrival.present = true ∧ lost.length < capacity ∧
              arrival.services.isSome = true then lost ++ [false] else lost)
          rest

/-- Every poll of a started multiplexer is punctual. -/
def PunctualStep (s : RpcServicesMuxServer) : Input → Prop
  | .poll env => s.started = true → ∀ capacity, s.mux = some capacity →
      Punctual capacity s.lostFlags env.arrivals
  | _ => True

/-! ## Room -/

variable {C : RpcConvertors} {s : RpcServicesMuxServer}

/-- There are not more slots than expected, and none while the multiplexer is
not open. -/
def Fits (s : RpcServicesMuxServer) : Prop := s.slots.length ≤ s.mux.getD 0

/-- The ids and the state of the multiplexer stay as they are. -/
theorem Fits.of_ids {s' : RpcServicesMuxServer} (h : Fits s)
    (hids : s'.ids = s.ids) (hmux : s'.mux = s.mux) : Fits s' := by
  have hlength := congrArg List.length hids
  rw [ids, ids, List.length_map, List.length_map] at hlength
  rw [Fits, hlength, hmux]
  exact h

@[simp] theorem mux_transportAll (s : RpcServicesMuxServer)
    (events : List TransportEvent) : (s.transportAll events).mux = s.mux := by
  induction events generalizing s with
  | nil => rfl
  | cons event events ih =>
      have hone : (s.transport event).mux = s.mux := by cases event <;> rfl
      exact (ih (s.transport event)).trans hone

theorem Fits.transportAll (h : Fits s) (events : List TransportEvent) :
    Fits (s.transportAll events) :=
  h.of_ids (transportAll_sameIds s events).ids_eq (mux_transportAll s events)

theorem Fits.acceptConnection (h : Fits s) {capacity : ℕ}
    (hmux : s.mux = some capacity)
    (services : Option (List (String × ServiceConfig))) :
    Fits (s.acceptConnection capacity services).1 ∧
      (s.acceptConnection capacity services).1.mux = some capacity := by
  unfold RpcServicesMuxServer.acceptConnection
  split_ifs with hfull
  · exact ⟨h, hmux⟩
  · cases services with
    | none => exact ⟨h, hmux⟩
    | some services =>
        refine ⟨?_, hmux⟩
        simp only [Fits, hmux, Option.getD_some, List.length_append,
          List.length_singleton]
        omega

theorem Fits.acceptNewConnections (h : Fits s) {capacity : ℕ}
    (hmux : s.mux = some capacity) (arrivals : List Arrival) :
    Fits (acceptNewConnections capacity s arrivals).1 ∧
      (acceptNewConnections capacity s arrivals).1.mux = some capacity := by
  induction arrivals generalizing s with
  | nil => exact ⟨h, hmux⟩
  | cons arrival rest ih =>
      have harrived := h.transportAll arrival.before
      have hmux' := (mux_transportAll s arrival.before).trans hmux
      rw [RpcServicesMuxServer.acceptNewConnections]
      dsimp only
      split_ifs with hpresent
      · obtain ⟨hnext, hmuxNext⟩ :=
          harrived.acceptConnection hmux' arrival.services
        exact ih hnext hmuxNext
      · exact ih harrived hmux'

theorem Fits.cleanupDisconnected (h : Fits s) : Fits s.cleanupDisconnected.1 :=
  (List.length_filter_le _ _).trans h

theorem mux_pollSlots (C : RpcConvertors) (env : ℕ → SlotEnv)
    (s : RpcServicesMuxServer) (places : List ℕ) :
    (pollSlots C env s places).state.mux = s.mux := by
  induction places generalizing s with
  | nil => rfl
  | cons i rest ih =>
      rw [pollSlots]
      dsimp only
      split
      · exact mux_transportAll s (env i).before
      · split_ifs
        · exact mux_transportAll s (env i).before
        · exact (ih _).trans (mux_transportAll s (env i).before)

theorem Fits.poll (h : Fits s) (C : RpcConvertors) (env : PollEnv) :
    Fits (s.poll C env).state := by
  unfold RpcServicesMuxServer.poll
  by_cases hstarted : s.started = true
  swap
  · rw [if_pos hstarted]
    exact h
  · rw [if_neg (not_not_intro hstarted)]
    cases hmux : s.mux with
    | none => exact h
    | some capacity =>
        dsimp only
        have hfirst := ((h.acceptNewConnections hmux
          env.arrivals).1.transportAll env.beforeFirstPass).cleanupDisconnected
        generalize ((RpcServicesMuxServer.acceptNewConnections capacity s
          env.arrivals).1.transportAll
            env.beforeFirstPass).cleanupDisconnected = first at hfirst ⊢
        have hpolled : Fits (pollSlots C env.slot first.1
            (List.range first.1.slots.length)).state :=
          hfirst.of_ids (pollSlots_spec C env.slot first.1 _).1.ids_eq
            (mux_pollSlots C env.slot first.1 _)
        split_ifs
        · exact hpolled
        · exact (hpolled.transportAll env.beforeLastPass).cleanupDisconnected

theorem Fits.step (h : Fits s) (i : Input) :
    Fits ((machine C).step s i).1 := by
  cases i with
  | initializeMux expectedCount =>
      simp only [machine, RpcServicesMuxServer.initializeMux]
      split_ifs with hopen
      · exact h
      · cases expectedCount with
        | none => exact h
        | some count =>
            dsimp only
            split_ifs
            · exact h
            · rw [Option.not_isSome_iff_eq_none] at hopen
              rw [Fits, hopen, Option.getD_none, Nat.le_zero] at h
              simp [Fits, h]
  | startMux ok =>
      simp only [machine, RpcServicesMuxServer.startMux]
      split_ifs <;> exact h
  | stop => exact Nat.zero_le _
  | transport event => exact h.transportAll [event]
  | poll env => exact h.poll C env
  | answer net kind request pdu =>
      simp only [machine, sendReply]
      split
      · exact h
      · refine h.of_ids ?_ rfl
        apply KeyedList.map_key_modifyFirst
        exact fun _ hid => hid

/-! ## Connections that are turned away -/

theorem lostFlags_disconnect (slots : List ConnectionSlot) (place : ℕ) :
    (slots.modify place fun slot => { slot with disconnected := true }).map
        (·.disconnected) =
      (slots.map (·.disconnected)).set place true := by
  induction slots generalizing place with
  | nil => simp
  | cons slot slots ih =>
      cases place with
      | zero => rfl
      | succ place => simpa using ih place

theorem lostFlags_transportAll (s : RpcServicesMuxServer)
    (events : List TransportEvent) :
    (s.transportAll events).lostFlags = markLost s.lostFlags events := by
  induction events generalizing s with
  | nil => rfl
  | cons event events ih =>
      have hone : (s.transport event).lostFlags =
          markLost s.lostFlags [event] := by
        cases event with
        | receive slot serviceName pdu =>
            unfold lostFlags
            apply KeyedList.map_key_modify
            exact fun _ => rfl
        | disconnect slot => exact lostFlags_disconnect s.slots slot
      exact (ih (s.transport event)).trans (congrArg (markLost · events) hone)

/-- When all places are taken, as many connections are live as are expected if
none of them is lost. -/
theorem liveCount_eq_iff {capacity : ℕ} (hfull : s.slots.length = capacity) :
    s.liveCount = capacity ↔ true ∉ s.lostFlags := by
  rw [← hfull, liveCount, List.countP_eq_length, lostFlags]
  simp

/-- The flags after an endpoint was looked at. -/
theorem lostFlags_acceptConnection (s : RpcServicesMuxServer) (capacity : ℕ)
    (services : Option (List (String × ServiceConfig))) :
    (s.acceptConnection capacity services).1.lostFlags =
      if s.lostFlags.length < capacity ∧ services.isSome = true then
        s.lostFlags ++ [false]
      else s.lostFlags := by
  have hlength : s.lostFlags.length = s.slots.length := List.length_map _
  unfold RpcServicesMuxServer.acceptConnection
  rw [hlength]
  by_cases hfull : s.slots.length ≥ capacity
  · rw [if_pos hfull, if_neg fun h => absurd hfull (not_le.mpr h.1)]
  · rw [if_neg hfull]
    cases services with
    | none => simp [lostFlags]
    | some services => simp [lostFlags, not_le.mp hfull]

/-- An endpoint is turned away for a reason, or some lost connection has its
place. -/
theorem Fits.justified_acceptConnection (h : Fits s) {capacity : ℕ}
    (hmux : s.mux = some capacity)
    (services : Option (List (String × ServiceConfig))) :
    (∀ o ∈ (s.acceptConnection capacity services).2, Justified o) ↔
      (capacity ≤ s.lostFlags.length → true ∉ s.lostFlags) := by
  have hlength : s.lostFlags.length = s.slots.length := List.length_map _
  rw [Fits, hmux, Option.getD_some] at h
  unfold RpcServicesMuxServer.acceptConnection
  rw [hlength]
  by_cases hfull : s.slots.length ≥ capacity
  · rw [if_pos hfull, List.forall_mem_singleton]
    have hcount := liveCount_eq_iff (le_antisymm h hfull)
    exact hcount.trans ⟨fun hlost _ => hlost, fun hlost => hlost hfull⟩
  · rw [if_neg hfull]
    cases services with
    | none => simp [Justified, hfull]
    | some services => simp [Justified, hfull]

/-- The loop over the endpoints. -/
theorem Fits.justified_acceptNewConnections (h : Fits s) {capacity : ℕ}
    (hmux : s.mux = some capacity) (arrivals : List Arrival) :
    (∀ o ∈ (RpcServicesMuxServer.acceptNewConnections capacity s arrivals).2,
        Justified o) ↔
      Punctual capacity s.lostFlags arrivals := by
  induction arrivals generalizing s with
  | nil => simp [RpcServicesMuxServer.acceptNewConnections, Punctual]
  | cons arrival rest ih =>
      have harrived := h.transportAll arrival.before
      have hmux' := (mux_transportAll s arrival.before).trans hmux
      rw [RpcServicesMuxServer.acceptNewConnections, Punctual]
      dsimp only
      rw [List.forall_mem_append, ← lostFlags_transportAll]
      cases hpresent : arrival.present with
      | true =>
          obtain ⟨hnext, hmuxNext⟩ :=
            harrived.acceptConnection hmux' arrival.services
          have hflags := lostFlags_acceptConnection
            (s.transportAll arrival.before) capacity arrival.services
          simp only [if_true, true_and, forall_const]
          rw [harrived.justified_acceptConnection hmux', ih hnext hmuxNext,
            hflags]
      | false =>
          simp only [Bool.false_eq_true, if_false, false_and, false_implies,
            true_and, List.not_mem_nil, implies_true]
          exact ih harrived hmux'

theorem justified_pollSlots (C : RpcConvertors) (env : ℕ → SlotEnv)
    (s : RpcServicesMuxServer) (places : List ℕ) :
    ∀ o ∈ (pollSlots C env s places).effects, Justified o := by
  induction places generalizing s with
  | nil => exact List.forall_mem_nil _
  | cons i rest ih =>
      rw [pollSlots]
      dsimp only
      split
      · exact List.forall_mem_nil _
      · split_ifs
        · exact List.forall_mem_map.mpr fun _ _ => trivial
        · exact List.forall_mem_append.mpr
            ⟨List.forall_mem_map.mpr fun _ _ => trivial, ih _⟩

theorem Fits.justified_poll (h : Fits s) (C : RpcConvertors) (env : PollEnv) :
    (∀ o ∈ (s.poll C env).effects, Justified o) ↔
      PunctualStep s (.poll env) := by
  unfold RpcServicesMuxServer.poll PunctualStep
  by_cases hstarted : s.started = true
  swap
  · rw [if_pos hstarted]
    simp [hstarted]
  · rw [if_neg (not_not_intro hstarted)]
    cases hmux : s.mux with
    | none => simp
    | some capacity =>
        have haccepted := h.justified_acceptNewConnections hmux env.arrivals
        have hclosed : ∀ s : RpcServicesMuxServer,
            ∀ o ∈ s.cleanupDisconnected.2, Justified o :=
          fun s => List.forall_mem_map.mpr fun _ _ => trivial
        have hpolled := justified_pollSlots C env.slot
        simp only [hstarted, Option.some.injEq, forall_const, forall_eq']
        rw [← haccepted]
        split_ifs
        · rw [List.forall_mem_append, List.forall_mem_append,
            and_iff_left (hpolled _ _), and_iff_left (hclosed _)]
        · rw [List.forall_mem_append, List.forall_mem_append,
            List.forall_mem_append, and_iff_left (hclosed _),
            and_iff_left (hpolled _ _), and_iff_left (hclosed _)]

/-- A step turns no connection away without a reason if it is punctual. -/
theorem Fits.justified_step (h : Fits s) (i : Input) :
    (∀ o ∈ ((machine C).step s i).2, Justified o) ↔ PunctualStep s i := by
  cases i with
  | initializeMux expectedCount => simp [machine, PunctualStep]
  | startMux ok => simp [machine, PunctualStep]
  | stop =>
      refine iff_of_true ?_ trivial
      exact List.forall_mem_map.mpr fun _ _ => trivial
  | transport event => simp [machine, PunctualStep]
  | poll env => exact h.justified_poll C env
  | answer net kind request pdu =>
      refine iff_of_true ?_ trivial
      simp only [machine, sendReply]
      split
      · exact List.forall_mem_nil _
      · exact List.forall_mem_map.mpr fun _ _ => trivial

end RpcServicesMuxServer

open RpcServicesMuxServer in
/-- In a run of the multiplexer every connection that is turned away finds all
expected connections live if and only if none of them was lost, with its slot
still in place, when a client came to a full multiplexer. -/
theorem turnedAway_only_when_full (C : RpcConvertors)
    (is : List RpcServicesMuxServer.Input) :
    (∀ live expectedCount, MuxObs.turnedAway live expectedCount ∈
        (RpcServicesMuxServer.machine C).trace {} is → live = expectedCount) ↔
      (RpcServicesMuxServer.machine C).Along PunctualStep {} is := by
  have hjustified : (∀ live expectedCount, MuxObs.turnedAway live expectedCount ∈
        (RpcServicesMuxServer.machine C).trace {} is → live = expectedCount) ↔
      ∀ o ∈ (RpcServicesMuxServer.machine C).trace {} is, Justified o := by
    constructor
    · intro h o ho
      cases o with
      | turnedAway live expectedCount => exact h live expectedCount ho
      | accepted | closed | sent => trivial
    · intro h live expectedCount ho
      exact h _ ho
  rw [hjustified, Machine.forall_trace_iff]
  exact Machine.along_congr _ (I := Fits) (fun _ i h => h.step i)
    (fun _ i h => h.justified_step i) (Nat.zero_le _)

namespace ServiceLayout

/-- A client connects, loses its connection and comes back before the next
poll. -/
def comeBackRun : List RpcServicesMuxServer.Input :=
  [.initializeMux (some 1), .startMux true,
    .poll (arrivalEnv (some [("Add", serviceConfig)])),
    .transport (.disconnect 0),
    .poll (arrivalEnv (some [("Add", serviceConfig)]))]

end ServiceLayout

open ServiceLayout in
/-- The client is turned away although no connection is live. -/
theorem comeBackRun_turnedAway :
    MuxObs.turnedAway 0 1 ∈
      (RpcServicesMuxServer.machine layoutConvertors).trace {} comeBackRun ∧
    ¬∀ live expectedCount, MuxObs.turnedAway live expectedCount ∈
        (RpcServicesMuxServer.machine layoutConvertors).trace {} comeBackRun →
      live = expectedCount := by
  have htrace : (RpcServicesMuxServer.machine layoutConvertors).trace {}
      comeBackRun = [.accepted 1 true, .turnedAway 0 1, .closed 1] := rfl
  rw [htrace]
  refine ⟨by simp, ?_⟩
  intro h
  exact absurd (h 0 1 (by simp)) (by decide)

end Rpc
end HakoPduRpc
