import Mathlib.Data.List.TakeWhile
import Mathlib.Data.Nat.Find
import HakoPduRpc.Rpc.ServicesClient

/-!
# Responses and timeouts

A client endpoint looks at its clock before it looks at the responses that have
arrived.  While the request in flight is past its timeout every `poll` reports
the timeout again, so a response is only reported by a `poll` that comes in
time.  `RpcServicesClient` asks the services in order, and a service that is
past its timeout keeps those behind it from being asked.
-/

namespace HakoPduRpc
namespace Rpc

namespace RpcClientEndpointImpl

variable {C : RpcConvertors} {s : RpcClientEndpointImpl} {now : UInt64}

/-- A valid response to the request in flight. -/
def IsResponse (C : RpcConvertors) (s : RpcClientEndpointImpl)
    (pdu : PduData) : Prop :=
  s.matchesRequest C pdu = true ∧ s.validateHeader (readResponse C pdu) = true

/-- The first packet in the queue with the id in flight is a valid response. -/
def HeadIsResponse (C : RpcConvertors) (s : RpcClientEndpointImpl) : Prop :=
  ∃ pdu, s.pendingResponses.find? (s.matchesRequest C) = some pdu ∧
    s.validateHeader (readResponse C pdu) = true

/-- A `poll` that reports a waiting response and frees the client. -/
structure Answered (C : RpcConvertors) (s : RpcClientEndpointImpl)
    (now : UInt64) (response : RpcResponse) : Prop where
  terminal : Terminal (s.poll C now response).2.1
  idle : (s.poll C now response).1.clientState.state = .idle
  waiting : (s.poll C now response).2.2.pdu ∈ s.pendingResponses
  valid : IsResponse C s (s.poll C now response).2.2.pdu
  header_eq : (s.poll C now response).2.2.header =
    readResponse C (s.poll C now response).2.2.pdu

/-- The response is reported after at most one timeout. -/
def AnsweredSoon (C : RpcConvertors) (s : RpcClientEndpointImpl)
    (now now' : UInt64) (response response' : RpcResponse) : Prop :=
  Answered C s now response ∨
    (s.poll C now response).2.1 = .responseTimeout ∧
      Answered C (s.poll C now response).1 now' response'

/-- Past its timeout `poll` reports the timeout and nothing else happens. -/
theorem poll_of_timedOut (htimeout : s.timedOut now = true)
    (response : RpcResponse) :
    s.poll C now response = (s, .responseTimeout, response) := by
  have hbusy : s.clientState.state ≠ .idle := by
    intro hidle
    simp [timedOut, hidle] at htimeout
  simp [poll, hbusy, htimeout]

/-- In time `poll` reports no timeout. -/
theorem poll_ne_timeout (htime : s.timedOut now = false)
    (response : RpcResponse) :
    (s.poll C now response).2.1 ≠ .responseTimeout := by
  unfold poll
  split_ifs with hidle htimeout
  · intro hevent
    cases hevent
  · rw [htime] at htimeout
    cases htimeout
  · split
    · intro hevent
      cases hevent
    · simp only [handleResponseIn]
      split_ifs <;> simp

theorem HeadIsResponse.of_poll (h : HeadIsResponse C s)
    (hbusy : s.clientState.state ≠ .idle) (htime : s.timedOut now = false)
    (response : RpcResponse) : Answered C s now response := by
  obtain ⟨pdu, hfind, hvalid⟩ := h
  have htaken : s.taken C now = some pdu := by simp [taken, hbusy, htime, hfind]
  rcases poll_cases C now s response with
    ⟨hnone, -⟩ | ⟨pdu', htaken', -, -, hpoll⟩
  · rw [hnone] at htaken
    cases htaken
  · obtain rfl : pdu = pdu' := Option.some.inj (htaken.symm.trans htaken')
    constructor
    · rw [hpoll]
      simp only [hvalid, if_true]
      exact terminal_terminalEvent _
    · rw [hpoll]
      rfl
    · rw [hpoll]
      exact List.mem_of_find?_eq_some hfind
    · rw [hpoll]
      exact ⟨List.find?_some hfind, hvalid⟩
    · rw [hpoll]

/-- What ends the request is the first packet with the id in flight, and comes
in time. -/
theorem headIsResponse_of_terminal (hbusy : s.clientState.state ≠ .idle)
    {response : RpcResponse} (h : Terminal (s.poll C now response).2.1) :
    HeadIsResponse C s ∧ s.timedOut now = false := by
  cases htime : s.timedOut now with
  | true =>
      rw [poll_of_timedOut htime] at h
      rcases h with h | h <;> cases h
  | false =>
      refine ⟨?_, rfl⟩
      rcases poll_cases C now s response with
        ⟨-, -, hevent⟩ | ⟨pdu, htaken, -, -, hpoll⟩
      · rcases h with h | h <;>
          rcases hevent with hevent | hevent <;>
          rw [hevent] at h <;> cases h
      · refine ⟨pdu, ?_, ?_⟩
        · simpa [taken, hbusy, htime] using htaken
        · by_contra hinvalid
          rw [hpoll] at h
          simp [Terminal, hinvalid] at h

theorem answered_iff (hbusy : s.clientState.state ≠ .idle)
    (response : RpcResponse) :
    Answered C s now response ↔
      HeadIsResponse C s ∧ s.timedOut now = false := by
  constructor
  · intro h
    exact headIsResponse_of_terminal hbusy h.terminal
  · rintro ⟨hhead, htime⟩
    exact hhead.of_poll hbusy htime response

/-- One of the first two polls comes in time. -/
theorem answeredSoon_iff (hbusy : s.clientState.state ≠ .idle)
    (now' : UInt64) (response response' : RpcResponse) :
    AnsweredSoon C s now now' response response' ↔
      HeadIsResponse C s ∧
        (s.timedOut now = false ∨ s.timedOut now' = false) := by
  unfold AnsweredSoon
  rw [answered_iff hbusy]
  cases htime : s.timedOut now with
  | true =>
      rw [poll_of_timedOut htime]
      simp [answered_iff hbusy]
  | false =>
      constructor
      · rintro (h | ⟨hevent, -⟩)
        · exact ⟨h.1, Or.inl rfl⟩
        · exact absurd hevent (poll_ne_timeout htime response)
      · rintro ⟨hhead, -⟩
        exact Or.inl ⟨hhead, rfl⟩

/-- A `poll` leaves the client as it is or frees it. -/
theorem poll_state (C : RpcConvertors) (now : UInt64)
    (s : RpcClientEndpointImpl) (response : RpcResponse) :
    (s.poll C now response).1 = s ∨
      (s.poll C now response).1.clientState.state = .idle := by
  rcases poll_cases C now s response with ⟨-, hsame, -⟩ | ⟨pdu, -, -, -, hpoll⟩
  · exact Or.inl hsame
  · rw [hpoll]
    exact Or.inr rfl

theorem timedOut_of_idle (hidle : s.clientState.state = .idle) :
    s.timedOut now = false := by
  simp [timedOut, hidle]

/-- A response with the id in flight is taken from the queue: the client is free,
and the response is reported if it is a valid one. -/
theorem poll_of_taken {pdu : PduData} (htaken : s.taken C now = some pdu)
    (response : RpcResponse) :
    (s.poll C now response).1.clientState.state = .idle ∧
      ((s.poll C now response).2.1 = .none ↔
        s.validateHeader (readResponse C pdu) = false) := by
  rcases poll_cases C now s response with
    ⟨hnone, -⟩ | ⟨pdu', htaken', -, -, hpoll⟩
  · rw [hnone] at htaken
    cases htaken
  · obtain rfl : pdu = pdu' := Option.some.inj (htaken.symm.trans htaken')
    rw [hpoll]
    refine ⟨rfl, ?_⟩
    cases hvalid : s.validateHeader (readResponse C pdu) with
    | false => simp
    | true =>
        have hterminal := terminal_terminalEvent (readResponse C pdu)
        simp only [if_true, Bool.true_eq_false, iff_false]
        intro hevent
        rw [hevent] at hterminal
        rcases hterminal with hterminal | hterminal <;> cases hterminal

/-- Nothing is taken, and only a timeout is reported. -/
theorem poll_of_not_taken (htaken : s.taken C now = none)
    (response : RpcResponse) :
    (s.poll C now response).1 = s ∧
      ((s.poll C now response).2.1 = .none ↔ s.timedOut now = false) := by
  rcases poll_cases C now s response with
    ⟨-, hsame, hevent⟩ | ⟨pdu, htaken', -⟩
  · refine ⟨hsame, ?_⟩
    cases htime : s.timedOut now with
    | true => simp [poll_of_timedOut htime]
    | false =>
        have hne := poll_ne_timeout (C := C) htime response
        simpa [hne] using hevent
  · rw [htaken] at htaken'
    cases htaken'

/-- The first packet with the id in flight. -/
def answer (C : RpcConvertors) (s : RpcClientEndpointImpl) : Option PduData :=
  s.pendingResponses.find? (s.matchesRequest C)

theorem taken_of_busy (hbusy : s.clientState.state ≠ .idle) :
    s.taken C now = if s.timedOut now then none else s.answer C := by
  unfold taken answer
  simp [hbusy]

theorem taken_of_idle (hidle : s.clientState.state = .idle) :
    s.taken C now = none := by
  simp [taken, hidle]

end RpcClientEndpointImpl

namespace RpcServicesClient

open RpcClientEndpointImpl

variable {C : RpcConvertors}

/-! ## Repeated polls -/

section Polls

variable (C) (now : ℕ → String → UInt64) (response : ℕ → RpcResponse)

/-- The services after a number of polls. -/
def afterPolls (s : RpcServicesClient) : ℕ → RpcServicesClient
  | 0 => s
  | k + 1 => ((afterPolls s k).poll C (now k) (response k)).1

/-- A poll reports the response that waits for the request of a service. -/
def ReportsResponse (s : RpcServicesClient) (name : String)
    (endpoint : RpcClientEndpointImpl) (k : ℕ) : Prop :=
  let polled := (afterPolls C now response s k).poll C (now k) (response k)
  (∃ event, polled.2.1 = some (name, event) ∧ Terminal event) ∧
    polled.2.2.pdu ∈ endpoint.pendingResponses ∧
    IsResponse C endpoint polled.2.2.pdu

/-- An earlier poll, of those in `P`, has taken the answer of a service. -/
def Freed (now : ℕ → UInt64) (endpoint : RpcClientEndpointImpl) (P : Set ℕ)
    (k : ℕ) : Prop :=
  endpoint.answer C ≠ none ∧
    ∃ j ∈ P, j < k ∧ endpoint.timedOut (now j) = false

/-- The polls that go past a service, of the polls `P` that reach it: it has no
request in flight, an earlier poll has taken its answer, or it is in time and has
no answer, or an invalid one, which is dropped. -/
def passing (now : ℕ → UInt64) (endpoint : RpcClientEndpointImpl)
    (P : Set ℕ) : Set ℕ :=
  {k | k ∈ P ∧ (endpoint.clientState.state = .idle ∨
    Freed C now endpoint P k ∨
    endpoint.timedOut (now k) = false ∧ ∀ pdu, endpoint.answer C = some pdu →
      endpoint.validateHeader (readResponse C pdu) = false)}

/-- The polls that go past all these services, which are asked in this order. -/
def reaching : List (String × RpcClientEndpointImpl) → Set ℕ → Set ℕ
  | [], P => P
  | (name, endpoint) :: rest, P =>
      reaching rest (passing C (fun k => now k name) endpoint P)

/-- The services that are asked before this one. -/
def before (s : RpcServicesClient) (name : String) :
    List (String × RpcClientEndpointImpl) :=
  s.rpcEndpoints.entries.takeWhile fun e => e.1 < name

/-- Lists of services, one after the other: the polls in `P` ask them, and the
others do not. -/
structure PolledAt (P : Set ℕ)
    (l : ℕ → List (String × RpcClientEndpointImpl)) : Prop where
  asked : ∀ k ∈ P, ∃ response,
    l (k + 1) = (pollEndpoints C (now k) (l k) response).1
  passed : ∀ k, k ∉ P → l (k + 1) = l k

end Polls

section First

variable {now : ℕ → String → UInt64} {P : Set ℕ} {name : String}
  {endpoint : RpcClientEndpointImpl}
  {rest : List (String × RpcClientEndpointImpl)}
  {l : ℕ → List (String × RpcClientEndpointImpl)}

theorem Freed.succ {now : ℕ → UInt64} {k : ℕ} :
    Freed C now endpoint P (k + 1) ↔ Freed C now endpoint P k ∨
      endpoint.answer C ≠ none ∧ k ∈ P ∧ endpoint.timedOut (now k) = false := by
  unfold Freed
  constructor
  · rintro ⟨hanswer, j, hj, hlt, htime⟩
    rcases Nat.lt_succ_iff_lt_or_eq.mp hlt with hlt | rfl
    · exact Or.inl ⟨hanswer, j, hj, hlt, htime⟩
    · exact Or.inr ⟨hanswer, hj, htime⟩
  · rintro (⟨hanswer, j, hj, hlt, htime⟩ | ⟨hanswer, hk, htime⟩)
    · exact ⟨hanswer, j, hj, Nat.lt_succ_of_lt hlt, htime⟩
    · exact ⟨hanswer, k, hk, Nat.lt_succ_self k, htime⟩

/-- The first service, after a number of polls: free once its answer has been
taken, and as it was until then. -/
structure FirstAt (C : RpcConvertors) (now : ℕ → UInt64)
    (endpoint : RpcClientEndpointImpl) (P : Set ℕ) (k : ℕ)
    (e : RpcClientEndpointImpl) : Prop where
  freed : Freed C now endpoint P k → e.clientState.state = .idle
  same : ¬Freed C now endpoint P k → e = endpoint

/-- A poll of the first service. -/
theorem FirstAt.poll {now : ℕ → UInt64} {k : ℕ} {e : RpcClientEndpointImpl}
    (h : FirstAt C now endpoint P k e) (hk : k ∈ P) (response : RpcResponse) :
    FirstAt C now endpoint P (k + 1) (e.poll C (now k) response).1 ∧
      ((e.poll C (now k) response).2.1 = .none ↔
        k ∈ passing C now endpoint P) := by
  have hpassing : k ∈ passing C now endpoint P ↔
      endpoint.clientState.state = .idle ∨ Freed C now endpoint P k ∨
        endpoint.timedOut (now k) = false ∧
          ∀ pdu, endpoint.answer C = some pdu →
            endpoint.validateHeader (readResponse C pdu) = false :=
    and_iff_right hk
  rw [hpassing]
  by_cases hfreed : Freed C now endpoint P k
  · have hidle := h.freed hfreed
    have hnone : e.taken C (now k) = none := taken_of_idle hidle
    obtain ⟨hsame, hevent⟩ := poll_of_not_taken hnone response
    rw [hsame]
    refine ⟨⟨fun _ => hidle, fun hnot => ?_⟩, ?_⟩
    · exact absurd (Freed.succ.mpr (Or.inl hfreed)) hnot
    · simp [hevent, timedOut_of_idle hidle, hfreed]
  · obtain rfl := h.same hfreed
    by_cases hidle : e.clientState.state = .idle
    · have hnone : e.taken C (now k) = none := taken_of_idle hidle
      obtain ⟨hsame, hevent⟩ := poll_of_not_taken hnone response
      rw [hsame]
      refine ⟨⟨fun _ => hidle, fun _ => rfl⟩, ?_⟩
      simp [hevent, timedOut_of_idle hidle, hidle]
    · have htaken : e.taken C (now k) =
          if e.timedOut (now k) then none else e.answer C :=
        taken_of_busy hidle
      cases htime : e.timedOut (now k) with
      | true =>
          rw [htime, if_pos rfl] at htaken
          obtain ⟨hsame, hevent⟩ := poll_of_not_taken htaken response
          rw [hsame]
          refine ⟨⟨fun hnext => ?_, fun _ => rfl⟩, ?_⟩
          · rcases Freed.succ.mp hnext with hnext | ⟨-, -, hnext⟩
            · exact absurd hnext hfreed
            · rw [htime] at hnext
              cases hnext
          · simp [hevent, htime, hidle, hfreed]
      | false =>
          rw [htime, if_neg Bool.false_ne_true] at htaken
          cases hanswer : e.answer C with
          | none =>
              obtain ⟨hsame, hevent⟩ :=
                poll_of_not_taken (htaken.trans hanswer) response
              rw [hsame]
              refine ⟨⟨fun hnext => ?_, fun _ => rfl⟩, ?_⟩
              · rcases Freed.succ.mp hnext with hnext | ⟨hnext, -⟩
                · exact absurd hnext hfreed
                · exact absurd hanswer hnext
              · simp [hevent, htime]
          | some pdu =>
              obtain ⟨hfree, hevent⟩ :=
                poll_of_taken (htaken.trans hanswer) response
              refine ⟨⟨fun _ => hfree, fun hnot => ?_⟩, ?_⟩
              · exact absurd (Freed.succ.mpr
                  (Or.inr ⟨by simp [hanswer], hk, htime⟩)) hnot
              · simp [hevent, hidle, hfreed]

theorem PolledAt.first (h : PolledAt C now P l)
    (hstart : l 0 = (name, endpoint) :: rest) (k : ℕ) :
    ∃ e, l k = (name, e) :: (l k).tail ∧
      FirstAt C (fun k => now k name) endpoint P k e := by
  induction k with
  | zero =>
      refine ⟨endpoint, by rw [hstart]; rfl, fun hfreed => ?_, fun _ => rfl⟩
      obtain ⟨-, j, -, hlt, -⟩ := hfreed
      exact absurd hlt (Nat.not_lt_zero j)
  | succ k ih =>
      obtain ⟨e, hlist, hfirst⟩ := ih
      by_cases hk : k ∈ P
      · obtain ⟨response, hnext⟩ := h.asked k hk
        rw [hlist, pollEndpoints] at hnext
        refine ⟨(e.poll C (now k name) response).1, ?_,
          (hfirst.poll hk response).1⟩
        rw [hnext]
        dsimp only
        split_ifs <;> rfl
      · rw [h.passed k hk]
        refine ⟨e, hlist, fun hfreed => hfirst.freed ?_,
          fun hnot => hfirst.same fun hfreed => hnot (Freed.succ.mpr (Or.inl hfreed))⟩
        exact (Freed.succ.mp hfreed).resolve_right fun hlate => hk hlate.2.1

/-- A poll that goes past the first service asks those behind it; any other poll
reports something of the first one. -/
theorem PolledAt.behind (h : PolledAt C now P l)
    (hstart : l 0 = (name, endpoint) :: rest) {k : ℕ} (hk : k ∈ P)
    (response : RpcResponse) :
    (k ∈ passing C (fun k => now k name) endpoint P →
      ∃ response', (pollEndpoints C (now k) (l k) response).1.tail =
          (pollEndpoints C (now k) (l k).tail response').1 ∧
        (pollEndpoints C (now k) (l k) response).2 =
          (pollEndpoints C (now k) (l k).tail response').2) ∧
    (k ∉ passing C (fun k => now k name) endpoint P →
      (pollEndpoints C (now k) (l k) response).1.tail = (l k).tail ∧
        ∃ event, (pollEndpoints C (now k) (l k) response).2.1 =
          some (name, event)) := by
  obtain ⟨e, hlist, hfirst⟩ := h.first hstart k
  obtain ⟨-, hevent⟩ := hfirst.poll hk response
  rw [hlist, pollEndpoints, List.tail_cons]
  dsimp only
  constructor
  · intro hpassing
    rw [if_neg (not_not_intro (hevent.mpr hpassing))]
    exact ⟨_, rfl, rfl⟩
  · intro hnot
    rw [if_pos fun hnone => hnot (hevent.mp hnone)]
    exact ⟨rfl, _, rfl⟩

theorem PolledAt.tail (h : PolledAt C now P l)
    (hstart : l 0 = (name, endpoint) :: rest) :
    PolledAt C now (passing C (fun k => now k name) endpoint P)
      fun k => (l k).tail := by
  constructor
  · intro k hk
    obtain ⟨response, hnext⟩ := h.asked k hk.1
    obtain ⟨response', htail, -⟩ := (h.behind hstart hk.1 response).1 hk
    exact ⟨response', by rw [hnext, htail]⟩
  · intro k hk
    by_cases hasked : k ∈ P
    · obtain ⟨response, hnext⟩ := h.asked k hasked
      rw [hnext, ((h.behind hstart hasked response).2 hk).1]
    · rw [h.passed k hasked]

end First
section Services

variable {now : ℕ → String → UInt64} {P : Set ℕ} {name : String}
  {endpoint : RpcClientEndpointImpl} {s : RpcServicesClient}
  {before rest : List (String × RpcClientEndpointImpl)}
  {l : ℕ → List (String × RpcClientEndpointImpl)}

theorem reaching_subset (C : RpcConvertors) (now : ℕ → String → UInt64)
    (before : List (String × RpcClientEndpointImpl)) (P : Set ℕ) :
    reaching C now before P ⊆ P := by
  induction before generalizing P with
  | nil => exact fun k hk => hk
  | cons e before ih =>
      intro k hk
      exact (ih _ hk).1

/-- A poll that goes past the services in front asks those behind them; any other
poll reports something of a service in front. -/
theorem PolledAt.reach (h : PolledAt C now P l) (hstart : l 0 = before ++ rest) :
    ∃ m, m 0 = rest ∧ PolledAt C now (reaching C now before P) m ∧
      ∀ k ∈ P, ∀ response,
        (k ∈ reaching C now before P →
          ∃ response', (pollEndpoints C (now k) (l k) response).2 =
            (pollEndpoints C (now k) (m k) response').2) ∧
        (k ∉ reaching C now before P → ∃ name' ∈ before.map Prod.fst,
          ∃ event, (pollEndpoints C (now k) (l k) response).2.1 =
            some (name', event)) := by
  induction before generalizing P l with
  | nil =>
      refine ⟨l, hstart, h, fun k hk response => ⟨fun _ => ⟨response, rfl⟩, ?_⟩⟩
      exact fun hnot => absurd hk hnot
  | cons e before ih =>
      obtain ⟨name, endpoint⟩ := e
      obtain ⟨m, hm, hasked, hbehind⟩ :=
        ih (h.tail hstart) (by rw [hstart]; rfl)
      refine ⟨m, hm, hasked, fun k hk response => ?_⟩
      obtain ⟨hpast, hhere⟩ := h.behind hstart hk response
      by_cases hpassing : k ∈ passing C (fun k => now k name) endpoint P
      · obtain ⟨response', -, hsame⟩ := hpast hpassing
        obtain ⟨hreach, hstop⟩ := hbehind k hpassing response'
        rw [hsame]
        refine ⟨hreach, fun hnot => ?_⟩
        obtain ⟨name', hname', hreport⟩ := hstop hnot
        exact ⟨name', List.mem_cons_of_mem _ hname', hreport⟩
      · refine ⟨fun hreach => ?_,
          fun _ => ⟨name, List.mem_cons_self .., (hhere hpassing).2⟩⟩
        exact absurd (reaching_subset C now before _ hreach) hpassing

/-- What is reported was found by the endpoint of the service. -/
theorem pollEndpoints_reported {l : List (String × RpcClientEndpointImpl)}
    {now : String → UInt64} {response : RpcResponse} {event : ClientEventType}
    (hreport : (pollEndpoints C now l response).2.1 = some (name, event)) :
    ∃ endpoint response', (name, endpoint) ∈ l ∧ event ≠ .none ∧
      (endpoint.poll C (now name) response').2.1 = event := by
  induction l generalizing response with
  | nil => cases hreport
  | cons e rest ih =>
      obtain ⟨name', endpoint⟩ := e
      rw [pollEndpoints] at hreport
      dsimp only at hreport
      by_cases hevent : (endpoint.poll C (now name') response).2.1 = .none
      · rw [if_neg (not_not_intro hevent)] at hreport
        obtain ⟨endpoint', response', hmem, hfound⟩ := ih hreport
        exact ⟨endpoint', response', List.mem_cons_of_mem _ hmem, hfound⟩
      · rw [if_pos hevent] at hreport
        obtain ⟨rfl, rfl⟩ := Prod.mk.inj (Option.some.inj hreport)
        exact ⟨endpoint, response, List.mem_cons_self .., hevent, rfl⟩

/-- A poll leaves a service as it is or frees it. -/
theorem pollEndpoints_mem {l : List (String × RpcClientEndpointImpl)}
    {now : String → UInt64} {response : RpcResponse}
    {endpoint' : RpcClientEndpointImpl}
    (hmem : (name, endpoint') ∈ (pollEndpoints C now l response).1) :
    endpoint'.clientState.state = .idle ∨ (name, endpoint') ∈ l := by
  induction l generalizing response with
  | nil => cases hmem
  | cons e rest ih =>
      obtain ⟨name', endpoint⟩ := e
      have hhead : ∀ e, e = (name', (endpoint.poll C (now name') response).1) →
          e.2.clientState.state = .idle ∨ e = (name', endpoint) := by
        rintro e rfl
        rcases poll_state C (now name') endpoint response with hsame | hidle
        · exact Or.inr (by rw [hsame])
        · exact Or.inl hidle
      rw [pollEndpoints] at hmem
      dsimp only at hmem
      split_ifs at hmem
      · rcases List.mem_cons.mp hmem with heq | hmem
        · exact (hhead _ heq).imp_right (List.mem_cons.mpr ∘ Or.inl)
        · exact Or.inr (List.mem_cons_of_mem _ hmem)
      · rcases List.mem_cons.mp hmem with heq | hmem
        · exact (hhead _ heq).imp_right (List.mem_cons.mpr ∘ Or.inl)
        · exact (ih hmem).imp_right (List.mem_cons_of_mem _)

/-- A service is as it was, or has been freed. -/
theorem afterPolls_mem (now : ℕ → String → UInt64)
    (response : ℕ → RpcResponse) {k : ℕ} {endpoint' : RpcClientEndpointImpl}
    (hmem : (name, endpoint') ∈
      (afterPolls C now response s k).rpcEndpoints.entries) :
    endpoint'.clientState.state = .idle ∨
      (name, endpoint') ∈ s.rpcEndpoints.entries := by
  induction k with
  | zero => exact Or.inr hmem
  | succ k ih =>
      rcases pollEndpoints_mem hmem with hidle | hmem
      · exact Or.inl hidle
      · exact ih hmem

theorem mem_unique {m : OrdMap String RpcClientEndpointImpl}
    {endpoint' : RpcClientEndpointImpl} (h : m.find? name = some endpoint)
    (h' : (name, endpoint') ∈ m.entries) : endpoint' = endpoint := by
  rw [OrdMap.mem_entries_iff, h] at h'
  exact (Option.some.inj h').symm

theorem lt_of_mem_before {e : String × RpcClientEndpointImpl}
    (he : e ∈ s.before name) : e.1 < name := by
  simpa using List.mem_takeWhile_imp he

/-- The services before a service, the service, and those after it. -/
theorem exists_entries_eq (h : s.rpcEndpoints.find? name = some endpoint) :
    ∃ after, s.rpcEndpoints.entries =
      s.before name ++ (name, endpoint) :: after := by
  obtain ⟨before, after, hentries⟩ :=
    List.append_of_mem (OrdMap.mem_entries_iff.mpr h)
  have hordered := s.rpcEndpoints.ordered
  rw [hentries, List.pairwise_append] at hordered
  have hbefore : s.before name = before := by
    unfold RpcServicesClient.before
    rw [hentries, List.takeWhile_append_of_pos,
      List.takeWhile_cons_of_neg, List.append_nil]
    · simp
    · intro e he
      simpa using hordered.2.2 e he _ (List.mem_cons_self ..)
  exact ⟨after, hbefore ▸ hentries⟩

theorem polledAt_afterPolls (C : RpcConvertors) (now : ℕ → String → UInt64)
    (response : ℕ → RpcResponse) (s : RpcServicesClient) :
    PolledAt C now Set.univ
      fun k => (afterPolls C now response s k).rpcEndpoints.entries where
  asked k _ := ⟨response k, rfl⟩
  passed k hk := absurd (Set.mem_univ k) hk

/-- What a poll reports of a service was taken in time by a poll that reached
it. -/
theorem ReportsResponse.reaches {response : ℕ → RpcResponse} {k : ℕ}
    (h : ReportsResponse C now response s name endpoint k)
    (hfind : s.rpcEndpoints.find? name = some endpoint) :
    HeadIsResponse C endpoint ∧ k ∈ reaching C now (s.before name) Set.univ ∧
      endpoint.timedOut (now k name) = false := by
  obtain ⟨⟨event, hreport, hterminal⟩, -⟩ := h
  obtain ⟨endpoint', response', hmem, hevent, hpoll⟩ :=
    pollEndpoints_reported hreport
  have hbusy : endpoint'.clientState.state ≠ .idle := by
    intro hidle
    apply hevent
    rw [← hpoll]
    simp [RpcClientEndpointImpl.poll, hidle]
  obtain rfl : endpoint' = endpoint := by
    rcases afterPolls_mem _ _ hmem with hidle | hmem
    · exact absurd hidle hbusy
    · exact mem_unique hfind hmem
  rw [← hpoll] at hterminal
  obtain ⟨hhead, htime⟩ := headIsResponse_of_terminal hbusy hterminal
  refine ⟨hhead, ?_, htime⟩
  by_contra hnot
  obtain ⟨after, hentries⟩ := exists_entries_eq hfind
  obtain ⟨m, -, -, hpolls⟩ :=
    (polledAt_afterPolls C now response s).reach hentries
  obtain ⟨name', hname', event', hreport'⟩ :=
    (hpolls k (Set.mem_univ k) (response k)).2 hnot
  obtain ⟨e, he, rfl⟩ := List.mem_map.mp hname'
  have hsame := hreport.symm.trans hreport'
  obtain ⟨rfl, -⟩ := Prod.mk.inj (Option.some.inj hsame)
  exact absurd (lt_of_mem_before he) (lt_irrefl _)

/-- The first poll that reaches a service in time reports its response. -/
theorem reportsResponse_of_reaching (response : ℕ → RpcResponse)
    (hfind : s.rpcEndpoints.find? name = some endpoint)
    (hbusy : endpoint.clientState.state ≠ .idle)
    (hhead : HeadIsResponse C endpoint)
    (hreach : ∃ k, k ∈ reaching C now (s.before name) Set.univ ∧
      endpoint.timedOut (now k name) = false) :
    ∃ k, ReportsResponse C now response s name endpoint k := by
  classical
  obtain ⟨hk, htime⟩ := Nat.find_spec hreach
  have hmin : ∀ j < Nat.find hreach, _ := fun j hj => Nat.find_min hreach hj
  set k := Nat.find hreach
  obtain ⟨after, hentries⟩ := exists_entries_eq hfind
  obtain ⟨m, hm, hasked, hpolls⟩ :=
    (polledAt_afterPolls C now response s).reach hentries
  obtain ⟨e, hlist, hfirst⟩ := hasked.first hm k
  have hnot : ¬Freed C (fun k => now k name) endpoint
      (reaching C now (s.before name) Set.univ) k := by
    rintro ⟨-, j, hj, hlt, hearly⟩
    exact hmin j hlt ⟨hj, hearly⟩
  obtain rfl := hfirst.same hnot
  obtain ⟨response', hsame⟩ := (hpolls k (Set.mem_univ k) (response k)).1 hk
  have hanswered := hhead.of_poll hbusy htime response'
  have hsome : (e.poll C (now k name) response').2.1 ≠ .none := by
    intro hnone
    have hterminal := hanswered.terminal
    rw [hnone] at hterminal
    rcases hterminal with hterminal | hterminal <;> cases hterminal
  rw [hlist, pollEndpoints] at hsame
  dsimp only at hsame
  rw [if_pos hsome] at hsame
  have hreport := congrArg Prod.fst hsame
  have htaken := congrArg Prod.snd hsame
  refine ⟨k, ⟨_, hreport, hanswered.terminal⟩, ?_⟩
  change (pollEndpoints C (now k) _ (response k)).2.2.pdu ∈ _ ∧
    IsResponse C e (pollEndpoints C (now k) _ (response k)).2.2.pdu
  rw [htaken]
  exact ⟨hanswered.waiting, hanswered.valid⟩

end Services

end RpcServicesClient

open RpcClientEndpointImpl RpcServicesClient

/-! ## Responses that wait -/

/-- A waiting response is reported after at most one timeout exactly when it is
the first packet with the id in flight and one of the first two polls is in
time.  A run of polls of several services reports the waiting response of one of
them exactly when it is the first packet with the id in flight and some poll goes
past the services before it and finds it in time. -/
theorem waiting_response_reported_iff (C : RpcConvertors) :
    (∀ s : RpcClientEndpointImpl, s.clientState.state ≠ .idle →
      ∀ (now now' : UInt64) (response response' : RpcResponse),
        AnsweredSoon C s now now' response response' ↔ HeadIsResponse C s ∧
          (s.timedOut now = false ∨ s.timedOut now' = false)) ∧
      ∀ (s : RpcServicesClient) (name : String)
        (endpoint : RpcClientEndpointImpl),
        s.rpcEndpoints.find? name = some endpoint →
        endpoint.clientState.state ≠ .idle →
        ∀ (now : ℕ → String → UInt64) (response : ℕ → RpcResponse),
          (∃ k, ReportsResponse C now response s name endpoint k) ↔
            HeadIsResponse C endpoint ∧
              ∃ k ∈ reaching C now (s.before name) Set.univ,
                endpoint.timedOut (now k name) = false := by
  constructor
  · intro s hbusy now now' response response'
    exact answeredSoon_iff hbusy now' response response'
  · intro s name endpoint hfind hbusy now response
    constructor
    · rintro ⟨k, hreport⟩
      obtain ⟨hhead, hreach, htime⟩ := hreport.reaches hfind
      exact ⟨hhead, k, hreach, htime⟩
    · rintro ⟨hhead, hreach⟩
      exact reportsResponse_of_reaching response hfind hbusy hhead hreach

section Late

open ServiceLayout

/-- A client with its request in flight and the answer to it in the queue. -/
def answeredClient (timeoutUsec : UInt64) : RpcClientEndpointImpl :=
  { RpcClientEndpointImpl.create "Add" "Client" with
    clientState := ⟨1, .running⟩
    pendingResponses := [responsePacket ⟨1, "Add", "Client", 3, 100, 0⟩]
    currentTimeoutUsec := timeoutUsec
    currentRequestId := 1 }

/-- A client whose request has no answer yet. -/
def waitingClient : RpcClientEndpointImpl :=
  { RpcClientEndpointImpl.create "Abs" "Client" with
    clientState := ⟨1, .running⟩
    currentTimeoutUsec := 5
    currentRequestId := 1 }

def twoServices : RpcServicesClient :=
  ⟨(OrdMap.empty.assign "Abs" waitingClient).assign "Add" (answeredClient 0)⟩

theorem answeredClient_head (timeoutUsec : UInt64) :
    HeadIsResponse layoutConvertors (answeredClient timeoutUsec) := by
  have hread : readResponse layoutConvertors
      (responsePacket ⟨1, "Add", "Client", 3, 100, 0⟩) =
        ⟨1, "Add", "Client", 3, 100, 0⟩ := by
    decide +kernel
  refine ⟨responsePacket ⟨1, "Add", "Client", 3, 100, 0⟩, ?_, ?_⟩
  · simp [answeredClient, matchesRequest, hread]
  · rw [hread]
    rfl

theorem twoServices_find :
    twoServices.rpcEndpoints.find? "Add" = some (answeredClient 0) := by
  rw [twoServices, OrdMap.find?_assign, if_pos rfl]

theorem twoServices_before :
    twoServices.before "Add" = [("Abs", waitingClient)] := by
  rfl

/-- In time the waiting response is reported, by its endpoint and through the
services, whatever the clock reads at later polls. -/
theorem answeredClient_reported :
    AnsweredSoon layoutConvertors (answeredClient 5) 6 5
        ⟨blankHeader, []⟩ ⟨blankHeader, []⟩ ∧
      ∃ k, ReportsResponse layoutConvertors (fun k _ => 5 + k.toUInt64)
        (fun _ => ⟨blankHeader, []⟩) twoServices "Add" (answeredClient 0) k := by
  obtain ⟨hone, hall⟩ := waiting_response_reported_iff layoutConvertors
  constructor
  · refine (hone (answeredClient 5) (by decide) 6 5 _ _).mpr ?_
    exact ⟨answeredClient_head 5, Or.inr (by decide +kernel)⟩
  · refine (hall twoServices "Add" (answeredClient 0) twoServices_find
      (by decide) _ _).mpr ⟨answeredClient_head 0, 0, ?_, by decide +kernel⟩
    rw [twoServices_before]
    refine ⟨Set.mem_univ 0, Or.inr (Or.inr ⟨by decide +kernel, ?_⟩)⟩
    rintro pdu ⟨⟩

/-- Past the timeout the waiting response of the only service, and the one
behind a service past its timeout, are never reported. -/
theorem lateResponse_withheld :
    (¬∀ s : RpcClientEndpointImpl, s.clientState.state = .running →
        (∃ pdu ∈ s.pendingResponses, IsResponse layoutConvertors s pdu) →
        ∀ (now now' : UInt64) (response response' : RpcResponse),
          AnsweredSoon layoutConvertors s now now' response response') ∧
      ¬∀ (s : RpcServicesClient) (name : String)
        (endpoint : RpcClientEndpointImpl),
        s.rpcEndpoints.find? name = some endpoint →
        endpoint.clientState.state = .running →
        (∃ pdu ∈ endpoint.pendingResponses,
          IsResponse layoutConvertors endpoint pdu) →
        (∀ reading, endpoint.timedOut reading = false) →
        ∀ (now : ℕ → String → UInt64) (response : ℕ → RpcResponse),
          ∃ k, ReportsResponse layoutConvertors now response s name endpoint
            k := by
  have hwaits : ∀ timeoutUsec,
      ∃ pdu ∈ (answeredClient timeoutUsec).pendingResponses,
        IsResponse layoutConvertors (answeredClient timeoutUsec) pdu := by
    intro timeoutUsec
    obtain ⟨pdu, hfind, hvalid⟩ := answeredClient_head timeoutUsec
    exact ⟨pdu, List.mem_of_find?_eq_some hfind, List.find?_some hfind, hvalid⟩
  constructor
  · intro h
    have hsoon := h (answeredClient 5) rfl (hwaits 5) 6 7 ⟨blankHeader, []⟩
      ⟨blankHeader, []⟩
    rw [answeredSoon_iff (by decide)] at hsoon
    have hlate : ¬((answeredClient 5).timedOut 6 = false ∨
        (answeredClient 5).timedOut 7 = false) := by
      decide +kernel
    exact hlate hsoon.2
  · intro h
    obtain ⟨k, hreport⟩ := h twoServices "Add" (answeredClient 0)
      twoServices_find rfl (hwaits 0)
      (by intro reading; simp [timedOut, answeredClient]) (fun _ _ => 6)
      (fun _ => ⟨blankHeader, []⟩)
    have hreach := (hreport.reaches twoServices_find).2.1
    rw [twoServices_before] at hreach
    obtain ⟨-, hidle | ⟨hfreed, -⟩ | ⟨htime, -⟩⟩ := hreach
    · revert hidle
      decide
    · exact hfreed rfl
    · have hlate : waitingClient.timedOut 6 = true := by decide +kernel
      exact Bool.false_ne_true (htime.symm.trans hlate)

end Late

end Rpc
end HakoPduRpc
