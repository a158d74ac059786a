import HakoPduRpc.Lib.Observer
import HakoPduRpc.Action.GoalTimeout
import HakoPduRpc.Action.SlotStores
import HakoPduRpc.Rpc.ResponseRace

/-!
# Timeouts and elapsed time

Both clients compare the time since a request with a timeout, in the arithmetic
of `uint64_t`.  The Action client looks first whether the clock is behind the
reading at the send, so its timeouts always mean elapsed time.  The RPC client
subtracts at once: when the clock has stepped back, the difference wraps around
and a timeout is reported that has not passed.

The readings at the sends are history variables, so that the statements do not
rest on what the endpoints have stored.
-/

namespace HakoPduRpc

/-- The difference of two readings when the clock has stepped back. -/
theorem toNat_sub_of_lt {now sent : UInt64} (h : now < sent) :
    (now - sent).toNat =
      18446744073709551616 - (sent.toNat - now.toNat) := by
  have hlt : now.toNat < sent.toNat := UInt64.lt_iff_toNat_lt.mp h
  have hsent := sent.toNat_lt
  rw [UInt64.toNat_sub]
  omega

/-- The time that has passed between two readings, as an integer, is at least
the timeout. -/
def TimeoutPassed (sent timeout now : UInt64) : Prop :=
  timeout ≠ 0 ∧ (timeout.toNat : Int) ≤ now.toNat - sent.toNat

theorem timeoutPassed_of_le {sent timeout now : UInt64} (hne : timeout ≠ 0)
    (hle : sent ≤ now) (h : timeout ≤ now - sent) :
    TimeoutPassed sent timeout now := by
  have hnat := UInt64.le_iff_toNat_le.mp h
  have hsent := UInt64.le_iff_toNat_le.mp hle
  rw [UInt64.toNat_sub_of_le _ _ hle] at hnat
  exact ⟨hne, by omega⟩

/-! ## The RPC client -/

namespace Rpc
namespace RpcClientEndpointImpl

variable {C : RpcConvertors} {s : RpcClientEndpointImpl}

/-- The reading of the clock at the last call that was sent, and its timeout. -/
abbrev LastCall := Option (UInt64 × UInt64)

/-- A call that is sent is recorded. -/
def recordCall (s : RpcClientEndpointImpl) : Input → LastCall → LastCall
  | .call net now pdu timeoutUsec, last =>
      if (s.call net now pdu timeoutUsec).result then some (now, timeoutUsec)
      else last
  | _, last => last

/-- The endpoint with a record of its last call. -/
def timedMachine (C : RpcConvertors) :
    Machine (RpcClientEndpointImpl × LastCall) Input Obs :=
  (machine C).recording recordCall

/-- A timeout that the step reports has passed since the last call. -/
def TimeoutMeant (C : RpcConvertors) (s : RpcClientEndpointImpl × LastCall)
    (i : Input) : Prop :=
  ∀ now response, i = .poll now response →
    (s.1.poll C now response).2.1 = .responseTimeout →
    ∃ sent timeout, s.2 = some (sent, timeout) ∧
      TimeoutPassed sent timeout now

/-- A request in flight with a timeout is not polled at a reading behind that of
the call, or so little behind it that the wrapped difference stays within the
timeout. -/
def ClockNotBehind (s : RpcClientEndpointImpl × LastCall) (i : Input) : Prop :=
  ∀ now response, i = .poll now response →
    ∀ sent timeout, s.2 = some (sent, timeout) →
    s.1.clientState.state = .running → timeout ≠ 0 →
    sent ≤ now ∨
      18446744073709551616 - (sent.toNat - now.toNat) ≤ timeout.toNat

/-- The record of a request in flight is what the endpoint has stored of it. -/
def Timed (s : RpcClientEndpointImpl × LastCall) : Prop :=
  s.1.clientState.state ≠ .idle →
    s.2 = some (s.1.requestStartTimeUsec, s.1.currentTimeoutUsec)

theorem poll_responseTimeout_iff (now : UInt64) (response : RpcResponse) :
    (s.poll C now response).2.1 = .responseTimeout ↔
      s.timedOut now = true := by
  cases htime : s.timedOut now with
  | true => simp [poll_of_timedOut htime]
  | false => simp [poll_ne_timeout htime]

theorem Timed.step {s : RpcClientEndpointImpl × LastCall} (h : Timed s)
    (i : Input) : Timed ((timedMachine C).step s i).1 := by
  cases i with
  | receive pdu => exact h
  | createRequestBuffer net opcode isCancelRequest pdu =>
      cases isCancelRequest <;> exact h
  | call net now pdu timeoutUsec =>
      intro hbusy
      rcases call_cases net s.1 now pdu timeoutUsec with
        ⟨hbusy', hcall⟩ | ⟨-, -, hcall⟩ | ⟨-, -, hcall⟩
      · simpa [timedMachine, Machine.recording, machine, recordCall, hcall]
          using h hbusy'
      · simp [timedMachine, Machine.recording, machine, hcall, setState]
          at hbusy
      · simp [timedMachine, Machine.recording, machine, recordCall, hcall,
          startRequest]
  | sendCancelRequest net =>
      intro hbusy
      rcases sendCancelRequest_cases C net s.1 with
        ⟨-, hcancel⟩ | ⟨hrunning, -, hcancel⟩ | ⟨hrunning, -, hcancel⟩
      · simp only [timedMachine, Machine.recording, machine, recordCall,
          hcancel] at hbusy ⊢
        exact h hbusy
      · simp only [timedMachine, Machine.recording, machine, recordCall,
          hcancel] at hbusy ⊢
        exact h hbusy
      · simp only [timedMachine, Machine.recording, machine, recordCall,
          hcancel]
        exact h (by rw [hrunning]; simp)
  | poll now response =>
      intro hbusy
      have hstep : ((timedMachine C).step s (.poll now response)).1 =
          ((s.1.poll C now response).1, s.2) := rfl
      rw [hstep] at hbusy ⊢
      obtain hsame | hidle := poll_state C now s.1 response
      · rw [hsame] at hbusy ⊢
        exact h hbusy
      · exact absurd hidle hbusy
  | clearPendingResponses => exact h

/-- A step means its timeouts exactly if the clock is not behind. -/
theorem timeoutMeant_iff {s : RpcClientEndpointImpl × LastCall} (h : Timed s)
    (i : Input) : TimeoutMeant C s i ↔ ClockNotBehind s i := by
  have hlate : ∀ now, s.1.timedOut now = true ↔
      s.1.clientState.state = .running ∧ 0 < s.1.currentTimeoutUsec ∧
        s.1.currentTimeoutUsec < now - s.1.requestStartTimeUsec := by
    intro now
    simp [timedOut]
  constructor
  · rintro hmeant now response rfl sent timeout hlast hrunning hne
    have hstored := h (by rw [hrunning]; simp)
    rw [hlast, Option.some.injEq, Prod.mk.injEq] at hstored
    obtain ⟨rfl, rfl⟩ := hstored
    by_contra hbehind
    obtain ⟨hbehind, hwrapped⟩ := not_or.mp hbehind
    have hlt := UInt64.not_le.mp hbehind
    have hdue : s.1.timedOut now = true := by
      rw [hlate]
      refine ⟨hrunning, UInt64.pos_iff_ne_zero.mpr hne, ?_⟩
      rw [UInt64.lt_iff_toNat_lt, toNat_sub_of_lt hlt]
      omega
    obtain ⟨sent, timeout, hrecord, hpassed⟩ := hmeant now response rfl
      ((poll_responseTimeout_iff now response).mpr hdue)
    rw [hlast, Option.some.injEq, Prod.mk.injEq] at hrecord
    obtain ⟨rfl, rfl⟩ := hrecord
    have hltNat := UInt64.lt_iff_toNat_lt.mp hlt
    have hle := hpassed.2
    omega
  · rintro hclock now response rfl hevent
    obtain ⟨hrunning, hpos, hover⟩ :=
      (hlate now).mp ((poll_responseTimeout_iff now response).mp hevent)
    have hlast := h (by rw [hrunning]; simp)
    have hne : s.1.currentTimeoutUsec ≠ 0 := UInt64.pos_iff_ne_zero.mp hpos
    refine ⟨_, _, hlast, ?_⟩
    by_cases hle : s.1.requestStartTimeUsec ≤ now
    · exact timeoutPassed_of_le hne hle (UInt64.le_of_lt hover)
    · have hwrapped := (hclock now response rfl _ _ hlast hrunning
        hne).resolve_left hle
      rw [UInt64.lt_iff_toNat_lt, toNat_sub_of_lt (UInt64.not_le.mp hle)]
        at hover
      omega

end RpcClientEndpointImpl
end Rpc

/-! ## The Action client -/

namespace Action
namespace ActionClientEndpointImpl

variable {R : PduRegistry} {ep : ActionClientEndpointImpl}

/-- The reading of the clock when a Goal was last sent, and its timeout. -/
abbrev SentGoals := GoalId → Option (UInt64 × UInt64)

/-- A Goal that is sent is recorded. -/
def recordGoal (R : PduRegistry) (ep : ActionClientEndpointImpl) :
    ClientEndpointInput → SentGoals → SentGoals
  | .sendGoalWithResult net now goalPdu goalId timeoutUsec, sent =>
      if (ep.sendGoalWithResult R net now goalPdu goalId
          timeoutUsec).result = .success then
        Function.update sent goalId (some (now, timeoutUsec))
      else sent
  | _, sent => sent

/-- The endpoint with a record of the Goals that it has sent. -/
def timedMachine (R : PduRegistry) :
    Machine (ActionClientEndpointImpl × SentGoals) ClientEndpointInput
      ClientEvent :=
  (clientEndpointMachine R).recording (recordGoal R)

/-- A timeout that the step reports has passed since the Goal was sent. -/
def TimeoutMeant (R : PduRegistry) (s : ActionClientEndpointImpl × SentGoals)
    (i : ClientEndpointInput) : Prop :=
  ∀ now event, i = .poll now → (s.1.poll R now).2 = some event →
    event.type = .timeout →
    ∃ sent timeout, s.2 event.goal.goalId = some (sent, timeout) ∧
      TimeoutPassed sent timeout now

/-- The record of a bound Goal is what its binding has stored. -/
def Timed (s : ActionClientEndpointImpl × SentGoals) : Prop :=
  ∀ g b, s.1.packetBindings.find? g = some b →
    s.2 g = some (b.sentAtUsec, b.timeoutUsec)

theorem advance_clock {b b' : ClientPacketBinding} {n : Notice}
    (h : b.advance n = some (some b')) :
    b'.sentAtUsec = b.sentAtUsec ∧ b'.timeoutUsec = b.timeoutUsec := by
  cases n <;> simp only [ClientPacketBinding.advance] at h <;>
    split_ifs at h <;> cases h <;> exact ⟨rfl, rfl⟩

/-- A binding that is released, or rewritten without its clock, keeps the
record. -/
theorem Timed.update {ep' : ActionClientEndpointImpl} {sent : SentGoals}
    (h : Timed (ep, sent)) {g : GoalId} {b : ClientPacketBinding}
    {b' : Option ClientPacketBinding}
    (hb : ep.packetBindings.find? g = some b)
    (hfind : ∀ g', ep'.packetBindings.find? g' =
      if g' = g then b' else ep.packetBindings.find? g')
    (hclock : ∀ after, b' = some after →
      after.sentAtUsec = b.sentAtUsec ∧ after.timeoutUsec = b.timeoutUsec) :
    Timed (ep', sent) := by
  intro g' after hafter
  change ep'.packetBindings.find? g' = some after at hafter
  rw [hfind] at hafter
  split_ifs at hafter with hg
  · obtain ⟨hsent, htimeout⟩ := hclock after hafter
    rw [hg, hsent, htimeout]
    exact h g b hb
  · exact h g' after hafter

theorem Timed.poll {sent : SentGoals} (hstored : ep.Stored)
    (h : Timed (ep, sent)) (now : UInt64) :
    Timed ((ep.poll R now).1, sent) := by
  have hpoll := hstored.poll_update (R := R) now
  generalize (ep.poll R now).1 = ep' at hpoll ⊢
  generalize (ep.poll R now).2 = event at hpoll
  cases hpoll with
  | same packets => exact h
  | packet packets hb hadvance hupdate =>
      refine h.update hb hupdate.find?_eq ?_
      rintro after rfl
      exact advance_clock hadvance
  | timeout packets hb hdue hupdate =>
      refine h.update hb hupdate.find?_eq ?_
      intro after hafter
      rw [← Option.some.inj hafter]
      exact ⟨rfl, rfl⟩

theorem Timed.step {s : ActionClientEndpointImpl × SentGoals}
    (hstored : s.1.Stored) (h : Timed s) (i : ClientEndpointInput) :
    Timed ((timedMachine R).step s i).1 := by
  obtain ⟨ep, sent⟩ := s
  cases i with
  | initializeEndpoint actionConfig =>
      have hsame : ((ActionClientEndpointImpl.initializeEndpoint R ep
          actionConfig).getD ep).packetBindings = ep.packetBindings := by
        cases hsome : ActionClientEndpointImpl.initializeEndpoint R ep
            actionConfig with
        | none => rfl
        | some ep' =>
            obtain ⟨-, -, -, -, -, -, rfl⟩ := initializeEndpoint_ok hsome
            rfl
      intro g b hb
      change ((ActionClientEndpointImpl.initializeEndpoint R ep
        actionConfig).getD ep).packetBindings.find? g = some b at hb
      rw [hsame] at hb
      exact h g b hb
  | receive key data => exact h
  | poll now => exact h.poll hstored now
  | sendGoalWithResult net now pdu g timeoutUsec =>
      by_cases hok : (ep.sendGoalWithResult R net now pdu g
          timeoutUsec).result = .success
      · obtain ⟨slot, -, -, -, hupdate⟩ := hstored.sendGoal_update hok
        intro g' b hb
        simp only [timedMachine, Machine.recording, clientEndpointMachine,
          recordGoal, hok, if_true] at hb ⊢
        rw [hupdate.find?_eq] at hb
        by_cases hg : g' = g
        · rw [if_pos hg, Option.some.injEq] at hb
          rw [hg, Function.update_self, ← hb]
          rfl
        · rw [if_neg hg] at hb
          rw [Function.update_of_ne hg]
          exact h g' b hb
      · simp only [timedMachine, Machine.recording, clientEndpointMachine,
          recordGoal, hok, if_false, sendGoal_failed hok]
        exact h
  | sendCancel net goal =>
      obtain ⟨-, hstate, -⟩ | ⟨b, key, data, hb, -, -, hdone⟩ :=
        sendCancel_cases (rfl : ep.sendCancel R net goal = _)
      · simp only [timedMachine, Machine.recording, clientEndpointMachine,
          recordGoal, hstate]
        exact h
      · simp only [timedMachine, Machine.recording, clientEndpointMachine,
          recordGoal, hdone]
        refine h.update hb (Update.modifyBinding hstored.toSlotStore hb rfl
          rfl).find?_eq ?_
        intro after hafter
        rw [← Option.some.inj hafter]
        exact ⟨rfl, rfl⟩
  | clearPendingEvents => exact h
  | resetContexts =>
      intro g b hb
      simp [timedMachine, Machine.recording, clientEndpointMachine,
        resetContexts] at hb

/-- A Goal that is given up has waited too long. -/
theorem poll_timeout_due {now : UInt64} {event : ClientEvent}
    (hevent : (ep.poll R now).2 = some event) (htype : event.type = .timeout) :
    ∃ b, ep.packetBindings.find? event.goal.goalId = some b ∧
      responseTimedOut now b = true := by
  have hscan : ∀ packets, (ActionClientEndpointImpl.pollTimeout
      { ep with pendingPackets := packets } now).2 = some event →
      ∃ b, ep.packetBindings.find? event.goal.goalId = some b ∧
        responseTimedOut now b = true := by
    intro packets hscan
    obtain hnone | ⟨g, b, hb, hdue, hsome⟩ := pollTimeout_cases
      { ep with pendingPackets := packets } now
    · rw [hnone] at hscan
      cases hscan
    · rw [hsome] at hscan
      rw [← Option.some.inj hscan]
      exact ⟨b, hb, hdue⟩
  unfold ActionClientEndpointImpl.poll at hevent
  split at hevent
  · exact hscan ep.pendingPackets hevent
  · next packet rest hqueue =>
      dsimp only at hevent
      split at hevent
      · next ep' event' hpacket =>
          rw [← Option.some.inj hevent] at htype
          exact absurd htype (handlePacket_type hpacket)
      · exact hscan rest hevent

/-- Every timeout of an Action client has passed. -/
theorem timeoutMeant_run (R : PduRegistry) (actionName : String)
    (is : List ClientEndpointInput) :
    (timedMachine R).Along (TimeoutMeant R)
      ({ actionName := actionName }, fun _ => none) is := by
  have hstored : ActionClientEndpointImpl.Stored
      { actionName := actionName } := stored_run R actionName []
  have htimed : Timed ({ actionName := actionName }, fun _ => none) := by
    intro g b hb
    simp at hb
  have hall : (timedMachine R).Along (fun _ _ => True)
      ({ actionName := actionName }, fun _ => none) is :=
    (timedMachine R).along_of_forall (fun _ _ _ => trivial) _
  have hbefore := Machine.Along.before (timedMachine R)
    (I := fun s : ActionClientEndpointImpl × SentGoals => s.1.Stored ∧ Timed s)
    (fun s i _ hs => ⟨hs.1.step i, hs.2.step hs.1 i⟩) ⟨hstored, htimed⟩ hall
  refine Machine.Along.mono _ ?_ hbefore
  rintro s i ⟨⟨-, hs⟩, -⟩ now event rfl hevent htype
  obtain ⟨b, hb, hdue⟩ := poll_timeout_due hevent htype
  obtain ⟨-, hne, hle, hlate⟩ := responseTimedOut_iff.mp hdue
  exact ⟨_, _, hs _ b hb, timeoutPassed_of_le hne hle hlate⟩

end ActionClientEndpointImpl
end Action

/-! ## Both clients -/

/-- Timeouts mean elapsed time: of the RPC client in a run in which the clock is
never polled behind the call, and exactly then; of the Action client in every
run. -/
theorem timeouts_mean_elapsed_time (C : Rpc.RpcConvertors)
    (serviceName clientName : String)
    (is : List Rpc.RpcClientEndpointImpl.Input) (R : PduRegistry)
    (actionName : String) (js : List Action.ClientEndpointInput) :
    ((Rpc.RpcClientEndpointImpl.timedMachine C).Along
          (Rpc.RpcClientEndpointImpl.TimeoutMeant C)
          (.create serviceName clientName, none) is ↔
        (Rpc.RpcClientEndpointImpl.timedMachine C).Along
          Rpc.RpcClientEndpointImpl.ClockNotBehind
          (.create serviceName clientName, none) is) ∧
      (Action.ActionClientEndpointImpl.timedMachine R).Along
        (Action.ActionClientEndpointImpl.TimeoutMeant R)
        ({ actionName := actionName }, fun _ => none) js := by
  constructor
  · refine (Rpc.RpcClientEndpointImpl.timedMachine C).along_congr
      (I := Rpc.RpcClientEndpointImpl.Timed) (fun _ i hs => hs.step i)
      (fun _ i hs => Rpc.RpcClientEndpointImpl.timeoutMeant_iff hs i) ?_
    intro hbusy
    exact absurd rfl hbusy
  · exact Action.ActionClientEndpointImpl.timeoutMeant_run R actionName js

/-- A request is sent at the reading `1000` with the timeout `500`, and polled
after the clock has stepped back to `900`. -/
def clockStepsBack : List Rpc.RpcClientEndpointImpl.Input :=
  [.call Rpc.ServiceLayout.sampleNet 1000 (Rpc.ServiceLayout.servicePacket 1 0)
      500,
    .poll 900 ⟨Rpc.RpcClientEndpointImpl.blankHeader, []⟩]

open Rpc RpcClientEndpointImpl ServiceLayout in
/-- The timeout is reported although no time has passed. -/
theorem clockStepsBack_times_out :
    (((machine layoutConvertors).run (create "Add" "Client")
        (clockStepsBack.take 1)).poll layoutConvertors 900
        ⟨blankHeader, []⟩).2.1 = .responseTimeout ∧
      ¬(timedMachine layoutConvertors).Along (TimeoutMeant layoutConvertors)
        (create "Add" "Client", none) clockStepsBack := by
  have hevent : (((machine layoutConvertors).run (create "Add" "Client")
      (clockStepsBack.take 1)).poll layoutConvertors 900
      ⟨blankHeader, []⟩).2.1 = .responseTimeout := by decide +kernel
  refine ⟨hevent, ?_⟩
  rintro ⟨-, hpoll, -⟩
  obtain ⟨sent, timeout, hlast, hpassed⟩ := hpoll 900 ⟨blankHeader, []⟩ rfl
    hevent
  obtain ⟨rfl, rfl⟩ : sent = 1000 ∧ timeout = 500 := by
    have hrecord : some ((1000 : UInt64), (500 : UInt64)) =
        some (sent, timeout) := hlast
    simpa [eq_comm] using hrecord
  exact absurd hpassed.2 (by decide)

end HakoPduRpc
