import HakoPduRpc.Action.ClientCorrespondence
import HakoPduRpc.Action.ServerHistory
import HakoPduRpc.Pdu.Layout

/-!
# The history of a Goal on the client

`clientRecord` reads off the trace of an Action what concerns one Goal; a
successful `send_goal_with_result` opens a new incarnation.  Nothing is assumed
about the peer: any bytes may arrive on any channel at any time.

The state of the packet binding determines which events were reported in the
current incarnation (`OpenReports`), and every incarnation satisfies
`ReportOrder`.
-/

namespace HakoPduRpc.Action

/-! ## The log of a Goal -/

/-- What the log of a Goal records: the Goal was sent, a Cancel was sent, or an
event was reported. -/
inductive ClientRecord
  | sent
  | cancelSent
  | event (event : ClientEvent)
deriving DecidableEq

/-- A Goal that was sent opens an incarnation. -/
def ClientRecord.start : ClientRecord → Option Unit
  | .sent => some ()
  | _ => none

/-- The entries that an observation adds to the log of a Goal. -/
def clientRecord (g : GoalId) : ClientObs → List ClientRecord
  | .event event => if event.goal.goalId = g then [.event event] else []
  | .sentGoal g' _ result _ =>
      if g' = g ∧ result = .success then [.sent] else []
  | .sentCancel goal result =>
      if goal.goalId = g ∧ result = true then [.cancelSent] else []
  | .effect _ => []

/-- The log of a Goal. -/
def clientRecords (g : GoalId) (trace : List ClientObs) : List ClientRecord :=
  trace.flatMap (clientRecord g)

/-- The incarnations of a Goal, newest first. -/
def reportedIncarnations (g : GoalId) (trace : List ClientObs) :
    List (Section Unit ClientRecord) :=
  Section.divide ClientRecord.start (clientRecords g trace)

/-! ## The order of events -/

/-- What an event tells the application. -/
inductive Report
  | notice (notice : Notice)
  | timeout
  | error
deriving DecidableEq

def ClientEvent.report (event : ClientEvent) : Report :=
  match event.type with
  | .goalResponse => .notice (.goalResponse event.decision)
  | .feedback => .notice (.feedback event.feedbackSequence)
  | .cancelResponse => .notice (.cancelResponse event.decision)
  | .result => .notice (.result event.terminalStatus)
  | .timeout => .timeout
  | .none | .error => .error

/-- The event ends the incarnation. -/
def Report.Terminal : Report → Prop
  | .notice (.goalResponse decision) => decision = .rejected
  | .notice (.result _) => True
  | .timeout => True
  | _ => False

/-- What a log reports. -/
def reportsOf (records : List ClientRecord) : List Report :=
  records.filterMap fun
    | .event event => some event.report
    | _ => none

/-- The packets among the reports. -/
def noticesOf (reports : List Report) : List Notice :=
  reports.filterMap fun
    | .notice n => some n
    | _ => none

/-- Cancels that were sent (`true`) and Cancel Responses (`false`). -/
def cancelsOf (records : List ClientRecord) : List Bool :=
  records.filterMap fun
    | .cancelSent => some true
    | .event event => if event.type = .cancelResponse then some false else none
    | _ => none

/-- The reports of an incarnation that is over. -/
def CompleteReports (l : List Report) : Prop :=
  l = [.timeout] ∨ l = [.notice (.goalResponse .rejected)] ∨
    ∃ full, CompleteOrder full ∧ l = full.map .notice

/-- What the client promises about the events of one incarnation. -/
structure ReportOrder (s : Section Unit ClientRecord) : Prop where
  /-- Nothing is reported before the Goal was sent. -/
  marker : s.marker = some ()
  /-- The events are a prefix of those of an incarnation that is over. -/
  grammar : ∃ full, CompleteReports full ∧ reportsOf s.entries <+: full
  /-- The `k`-th Feedback carries `k` modulo `2 ^ 32`. -/
  numbered : Numbered (feedbackNumbers (noticesOf (reportsOf s.entries)))
  /-- Cancels and Cancel Responses take turns, so that every response answers a
  Cancel of its own. -/
  answers : Alternating (cancelsOf s.entries)
  /-- Nothing happens after a timeout, a rejection or a Result. -/
  terminal : ∀ event, .event event ∈ s.entries.dropLast →
    ¬event.report.Terminal

section Logs

variable (l l' : List ClientRecord) (r r' : List Report)

@[simp] theorem clientRecords_append (g : GoalId) (t t' : List ClientObs) :
    clientRecords g (t ++ t') = clientRecords g t ++ clientRecords g t' := by
  simp [clientRecords]

@[simp] theorem reportsOf_append :
    reportsOf (l ++ l') = reportsOf l ++ reportsOf l' := by
  simp [reportsOf]

@[simp] theorem noticesOf_append :
    noticesOf (r ++ r') = noticesOf r ++ noticesOf r' := by
  simp [noticesOf]

@[simp] theorem cancelsOf_append :
    cancelsOf (l ++ l') = cancelsOf l ++ cancelsOf l' := by
  simp [cancelsOf]

@[simp] theorem noticesOf_map_notice (n : List Notice) :
    noticesOf (n.map .notice) = n := by
  simp [noticesOf, List.filterMap_map]

theorem report_noticeEvent (name : String) (g : GoalId) (n : Notice)
    (data : PduData) : (noticeEvent name g n data).report = .notice n := by
  cases n <;> rfl

@[simp] theorem reportsOf_event (event : ClientEvent) :
    reportsOf [.event event] = [event.report] := rfl

@[simp] theorem reportsOf_cancelSent : reportsOf [.cancelSent] = [] := rfl

@[simp] theorem cancelsOf_cancelSent : cancelsOf [.cancelSent] = [true] := rfl

theorem report_mem_reportsOf {event : ClientEvent} {l : List ClientRecord}
    (h : .event event ∈ l) : event.report ∈ reportsOf l :=
  List.mem_filterMap.mpr ⟨_, h, rfl⟩

end Logs

/-- A Goal that is executing has not reported anything terminal. -/
theorem ExecutingOrder.not_terminal {l : List Notice} (h : ExecutingOrder l)
    {n : Notice} (hn : n ∈ l) : ¬(Report.notice n).Terminal := by
  obtain ⟨body, hbody, rfl⟩ := h
  rcases List.mem_cons.mp hn with rfl | hn
  · simp [Report.Terminal]
  · have hmiddle := hbody n hn
    cases n <;> simp_all [Notice.Middle, Report.Terminal]

theorem CancelingOrder.not_terminal {l : List Notice} (h : CancelingOrder l)
    {n : Notice} (hn : n ∈ l) : ¬(Report.notice n).Terminal := by
  obtain ⟨body, after, hbody, hafter, rfl⟩ := h
  rcases List.mem_append.mp hn with hn | hn
  · exact ExecutingOrder.not_terminal ⟨body, hbody, rfl⟩ hn
  · rcases List.mem_cons.mp hn with rfl | hn
    · simp [Report.Terminal]
    · obtain ⟨sequence, rfl⟩ := hafter n hn
      simp [Report.Terminal]

/-! ## The open incarnation -/

/-- What the state of a binding says about the log of its incarnation. -/
def OpenPhase (b : ClientPacketBinding) (records : List ClientRecord) : Prop :=
  match b.state with
  | .awaitingGoalResponse => records = []
  | .goalResponseTimedOut =>
      ∃ event, event.report = .timeout ∧ records = [.event event]
  | .accepted =>
      ∃ l, ExecutingOrder l ∧ reportsOf records = l.map .notice ∧
        (cancelsOf records).length % 2 = 0
  | .awaitingCancelResponse =>
      ∃ l, ExecutingOrder l ∧ reportsOf records = l.map .notice ∧
        (cancelsOf records).length % 2 = 1
  | .canceling =>
      ∃ l, CancelingOrder l ∧ reportsOf records = l.map .notice

/-- The section of the current incarnation. -/
structure OpenReports (b : ClientPacketBinding)
    (s : Section Unit ClientRecord) : Prop where
  marker : s.marker = some ()
  numbered : Numbered (feedbackNumbers (noticesOf (reportsOf s.entries)))
  next : b.nextFeedbackSequence =
    UInt32.ofNat (feedbackNumbers (noticesOf (reportsOf s.entries))).length
  answers : Alternating (cancelsOf s.entries)
  phase : OpenPhase b s.entries

/-- The packets reported for a Goal whose Goal Response has arrived. -/
def OpenOrder (b : ClientPacketBinding) (l : List Notice) : Prop :=
  ((b.state = .accepted ∨ b.state = .awaitingCancelResponse) ∧
      ExecutingOrder l) ∨
    (b.state = .canceling ∧ CancelingOrder l)

namespace OpenReports

variable {b : ClientPacketBinding} {s : Section Unit ClientRecord}

theorem openOrder (h : OpenReports b s)
    (hwaiting : b.state ≠ .awaitingGoalResponse)
    (htimedOut : b.state ≠ .goalResponseTimedOut) :
    ∃ l, OpenOrder b l ∧ reportsOf s.entries = l.map .notice := by
  have hphase := h.phase
  unfold OpenPhase at hphase
  unfold OpenOrder
  split at hphase
  · next hstate => exact absurd hstate hwaiting
  · next hstate => exact absurd hstate htimedOut
  · next hstate =>
      obtain ⟨l, horder, hreports, -⟩ := hphase
      exact ⟨l, Or.inl ⟨Or.inl hstate, horder⟩, hreports⟩
  · next hstate =>
      obtain ⟨l, horder, hreports, -⟩ := hphase
      exact ⟨l, Or.inl ⟨Or.inr hstate, horder⟩, hreports⟩
  · next hstate =>
      obtain ⟨l, horder, hreports⟩ := hphase
      exact ⟨l, Or.inr ⟨hstate, horder⟩, hreports⟩

theorem not_terminal (h : OpenReports b s)
    (htimedOut : b.state ≠ .goalResponseTimedOut) :
    ∀ event, .event event ∈ s.entries → ¬event.report.Terminal := by
  intro event hmem
  by_cases hwaiting : b.state = .awaitingGoalResponse
  · have hphase := h.phase
    simp only [OpenPhase, hwaiting] at hphase
    simp [hphase] at hmem
  · obtain ⟨l, horder, hreports⟩ := h.openOrder hwaiting htimedOut
    have hreport := report_mem_reportsOf hmem
    rw [hreports] at hreport
    obtain ⟨n, hn, heq⟩ := List.mem_map.mp hreport
    rw [← heq]
    rcases horder with ⟨-, horder⟩ | ⟨-, horder⟩
    · exact horder.not_terminal hn
    · exact horder.not_terminal hn

theorem grammar (h : OpenReports b s) :
    ∃ full, CompleteReports full ∧ reportsOf s.entries <+: full := by
  by_cases hwaiting : b.state = .awaitingGoalResponse
  · have hphase := h.phase
    simp only [OpenPhase, hwaiting] at hphase
    refine ⟨[.timeout], Or.inl rfl, ?_⟩
    rw [hphase]
    exact List.nil_prefix
  · by_cases htimedOut : b.state = .goalResponseTimedOut
    · have hphase := h.phase
      simp only [OpenPhase, htimedOut] at hphase
      obtain ⟨event, hevent, hentries⟩ := hphase
      have hreports : reportsOf s.entries = [.timeout] := by
        rw [hentries, reportsOf_event, hevent]
      exact ⟨[.timeout], Or.inl rfl, hreports ▸ List.prefix_rfl⟩
    · obtain ⟨l, horder, hreports⟩ := h.openOrder hwaiting htimedOut
      have hfull : ∃ status, CompleteOrder (l ++ [.result status]) := by
        rcases horder with ⟨-, horder⟩ | ⟨-, horder⟩
        · exact ⟨.succeeded, l, _, rfl, Or.inl ⟨horder, Or.inl rfl⟩⟩
        · exact ⟨.canceled, l, _, rfl, Or.inr ⟨horder, Or.inl rfl⟩⟩
      obtain ⟨status, hfull⟩ := hfull
      refine ⟨_, Or.inr (Or.inr ⟨_, hfull, rfl⟩), ?_⟩
      rw [hreports, List.map_append]
      exact List.prefix_append _ _

/-- An open incarnation is in order. -/
theorem reportOrder (h : OpenReports b s) : ReportOrder s where
  marker := h.marker
  grammar := h.grammar
  numbered := h.numbered
  answers := h.answers
  terminal := by
    intro event hmem
    by_cases htimedOut : b.state = .goalResponseTimedOut
    · have hphase := h.phase
      simp only [OpenPhase, htimedOut] at hphase
      obtain ⟨_, -, hentries⟩ := hphase
      simp [hentries] at hmem
    · exact h.not_terminal htimedOut event (List.dropLast_subset _ hmem)

/-! ### Steps of the open incarnation -/

/-- A Goal that was just sent. -/
theorem fresh (hstate : b.state = .awaitingGoalResponse)
    (hnext : b.nextFeedbackSequence = 0) :
    OpenReports b { marker := some (), entries := [] } where
  marker := rfl
  numbered := by simp [reportsOf, noticesOf, feedbackNumbers, Numbered]
  next := by simpa [reportsOf, noticesOf, feedbackNumbers] using hnext
  answers := by simp [cancelsOf, Alternating]
  phase := by simp [OpenPhase, hstate]

theorem timedOut (h : OpenReports b s)
    (hstate : b.state = .awaitingGoalResponse) {event : ClientEvent}
    (hevent : event.report = .timeout) (htype : event.type = .timeout) :
    OpenReports { b with state := .goalResponseTimedOut }
      (s.push [.event event]) := by
  have hphase := h.phase
  simp only [OpenPhase, hstate] at hphase
  have hnone : noticesOf [Report.timeout] = [] := rfl
  have hcancels : cancelsOf [.event event] = [] := by
    simp [cancelsOf, htype]
  constructor
  · exact h.marker
  · simpa [hevent, hnone] using h.numbered
  · simpa [hevent, hnone] using h.next
  · simpa [hcancels] using h.answers
  · exact ⟨event, hevent, by simp [hphase]⟩

/-- A Cancel that was sent. -/
theorem cancelSent (h : OpenReports b s) (hstate : b.state = .accepted) :
    OpenReports { b with state := .awaitingCancelResponse }
      (s.push [.cancelSent]) := by
  have hphase := h.phase
  simp only [OpenPhase, hstate] at hphase
  obtain ⟨l, horder, hreports, heven⟩ := hphase
  constructor
  · exact h.marker
  · simpa using h.numbered
  · simpa using h.next
  · simpa using h.answers.append (by simp [heven])
  · refine ⟨l, horder, by simpa using hreports, ?_⟩
    simp only [Section.entries_push, cancelsOf_append, cancelsOf_cancelSent,
      List.length_append, List.length_singleton]
    omega

variable (name : String) (g : GoalId) (data : PduData)

theorem accepted (h : OpenReports b s)
    (hstate : b.state = .awaitingGoalResponse) :
    OpenReports { b with state := .accepted }
      (s.push [.event
        (noticeEvent name g (.goalResponse .accepted) data)]) := by
  have hphase := h.phase
  simp only [OpenPhase, hstate] at hphase
  have hnone : feedbackNumbers (noticesOf
      [Report.notice (.goalResponse .accepted)]) = [] := rfl
  have hcancels : cancelsOf [.event
      (noticeEvent name g (.goalResponse .accepted) data)] = [] := rfl
  constructor
  · exact h.marker
  · simpa [report_noticeEvent, hnone] using h.numbered
  · simpa [report_noticeEvent, hnone] using h.next
  · simpa [hcancels] using h.answers
  · refine ⟨[.goalResponse .accepted], ⟨[], by simp, rfl⟩, ?_, ?_⟩
    · simp [hphase, report_noticeEvent]
    · simp [hphase, hcancels]

theorem feedback (h : OpenReports b s)
    (hstate : b.state = .accepted ∨ b.state = .awaitingCancelResponse ∨
      b.state = .canceling) :
    OpenReports { b with nextFeedbackSequence := b.nextFeedbackSequence + 1 }
      (s.push [.event
        (noticeEvent name g (.feedback b.nextFeedbackSequence) data)]) := by
  have hnumber : feedbackNumbers (noticesOf
      [Report.notice (.feedback b.nextFeedbackSequence)]) =
      [b.nextFeedbackSequence] := rfl
  have hcancels : cancelsOf [.event
      (noticeEvent name g (.feedback b.nextFeedbackSequence) data)] = [] := rfl
  have hreport := report_noticeEvent name g (.feedback b.nextFeedbackSequence)
    data
  have hmiddle : (Notice.feedback b.nextFeedbackSequence).Middle := trivial
  constructor
  · exact h.marker
  · simpa [hreport, hnumber] using h.numbered.append h.next
  · simp only [Section.entries_push, reportsOf_append, reportsOf_event, hreport,
      noticesOf_append, feedbackNumbers_append, hnumber, List.length_append,
      UInt32.ofNat_add]
    rw [← h.next]
    rfl
  · simpa [hcancels] using h.answers
  · have hphase := h.phase
    unfold OpenPhase at hphase ⊢
    rcases hstate with hstate | hstate | hstate
    · simp only [hstate] at hphase ⊢
      obtain ⟨l, horder, hreports, heven⟩ := hphase
      refine ⟨l ++ [.feedback b.nextFeedbackSequence], horder.append hmiddle,
        ?_, ?_⟩
      · simp [hreports, hreport]
      · simpa [hcancels] using heven
    · simp only [hstate] at hphase ⊢
      obtain ⟨l, horder, hreports, hodd⟩ := hphase
      refine ⟨l ++ [.feedback b.nextFeedbackSequence], horder.append hmiddle,
        ?_, ?_⟩
      · simp [hreports, hreport]
      · simpa [hcancels] using hodd
    · simp only [hstate] at hphase ⊢
      obtain ⟨l, horder, hreports⟩ := hphase
      refine ⟨l ++ [.feedback b.nextFeedbackSequence], horder.append _, ?_⟩
      simp [hreports, hreport]

/-- A Cancel Response answers the Cancel that was sent last. -/
theorem cancelAnswered (h : OpenReports b s)
    (hstate : b.state = .awaitingCancelResponse) (decision : Decision) :
    Alternating (cancelsOf (s.entries ++ [.event
        (noticeEvent name g (.cancelResponse decision) data)])) ∧
      (cancelsOf (s.entries ++ [.event
        (noticeEvent name g (.cancelResponse decision) data)])).length % 2 =
        0 := by
  have hphase := h.phase
  simp only [OpenPhase, hstate] at hphase
  obtain ⟨l, -, -, hodd⟩ := hphase
  have hcancels : cancelsOf [.event
      (noticeEvent name g (.cancelResponse decision) data)] = [false] := rfl
  rw [cancelsOf_append, hcancels]
  constructor
  · exact h.answers.append (by simp [hodd])
  · simp only [List.length_append, List.length_singleton]
    omega

theorem cancelResponse (h : OpenReports b s)
    (hstate : b.state = .awaitingCancelResponse) {decision : Decision}
    (hdecision : decision ≠ .unspecified) :
    OpenReports
      { b with
        state := if decision = .accepted then .canceling else .accepted }
      (s.push [.event
        (noticeEvent name g (.cancelResponse decision) data)]) := by
  have hphase := h.phase
  simp only [OpenPhase, hstate] at hphase
  obtain ⟨l, horder, hreports, -⟩ := hphase
  obtain ⟨halternating, heven⟩ := h.cancelAnswered name g data hstate decision
  have hnone : feedbackNumbers (noticesOf
      [Report.notice (.cancelResponse decision)]) = [] := rfl
  have hreport := report_noticeEvent name g (.cancelResponse decision) data
  constructor
  · exact h.marker
  · simpa [hreport, hnone] using h.numbered
  · simpa [hreport, hnone] using h.next
  · exact halternating
  · cases decision with
    | unspecified => exact absurd rfl hdecision
    | accepted =>
        refine ⟨l ++ [.cancelResponse .accepted], horder.cancel, ?_⟩
        simp [hreports, hreport]
    | rejected =>
        have hmiddle : (Notice.cancelResponse .rejected).Middle := rfl
        refine ⟨l ++ [.cancelResponse .rejected], horder.append hmiddle, ?_,
          heven⟩
        simp [hreports, hreport]

/-- A terminal event closes the incarnation. -/
theorem close (h : OpenReports b s)
    (htimedOut : b.state ≠ .goalResponseTimedOut) {n : Notice}
    (hnumber : feedbackNumbers [n] = [])
    (hcancels : cancelsOf [.event (noticeEvent name g n data)] = [])
    (hcomplete : CompleteReports (reportsOf s.entries ++ [.notice n])) :
    ReportOrder (s.push [.event (noticeEvent name g n data)]) := by
  have hreport := report_noticeEvent name g n data
  have hnotice : noticesOf [Report.notice n] = [n] := rfl
  constructor
  · exact h.marker
  · refine ⟨_, hcomplete, ?_⟩
    simp [hreport]
  · simpa [hreport, hnotice, hnumber] using h.numbered
  · simpa [hcancels] using h.answers
  · intro event hmem
    rw [Section.entries_push, List.dropLast_concat] at hmem
    exact h.not_terminal htimedOut event hmem

theorem rejected (h : OpenReports b s)
    (hstate : b.state = .awaitingGoalResponse) :
    ReportOrder (s.push [.event
      (noticeEvent name g (.goalResponse .rejected) data)]) := by
  have hphase := h.phase
  simp only [OpenPhase, hstate] at hphase
  apply h.close name g data (by simp [hstate]) rfl rfl
  rw [hphase]
  exact Or.inr (Or.inl rfl)

theorem result (h : OpenReports b s) {status : TerminalStatus}
    (hstate : ((b.state = .accepted ∨ b.state = .awaitingCancelResponse) ∧
        (status = .succeeded ∨ status = .aborted)) ∨
      (b.state = .canceling ∧ (status = .canceled ∨ status = .aborted))) :
    ReportOrder (s.push [.event
      (noticeEvent name g (.result status) data)]) := by
  have hwaiting : b.state ≠ .awaitingGoalResponse := by
    intro hwaiting
    simp [hwaiting] at hstate
  have htimedOut : b.state ≠ .goalResponseTimedOut := by
    intro htimedOut
    simp [htimedOut] at hstate
  obtain ⟨l, horder, hreports⟩ := h.openOrder hwaiting htimedOut
  apply h.close name g data htimedOut rfl rfl
  refine Or.inr (Or.inr ⟨l ++ [.result status], ⟨l, status, rfl, ?_⟩, ?_⟩)
  · rcases horder with ⟨hexecuting, horder⟩ | ⟨hcanceling, horder⟩
    · rcases hstate with ⟨-, hstatus⟩ | ⟨hcanceling, -⟩
      · exact Or.inl ⟨horder, hstatus⟩
      · simp [hcanceling] at hexecuting
    · rcases hstate with ⟨hexecuting, -⟩ | ⟨-, hstatus⟩
      · simp [hcanceling] at hexecuting
      · exact Or.inr ⟨horder, hstatus⟩
  · rw [hreports, List.map_append]
    rfl

end OpenReports

/-- The incarnations of a Goal, newest first; the first one is open when the
Goal is bound. -/
inductive ReportHistory :
    Option ClientPacketBinding → List (Section Unit ClientRecord) → Prop
  | closed {sections : List (Section Unit ClientRecord)}
      (hsettled : ∀ s ∈ sections, ReportOrder s) :
      ReportHistory none sections
  | bound {b : ClientPacketBinding} {s : Section Unit ClientRecord}
      {rest : List (Section Unit ClientRecord)} (hopen : OpenReports b s)
      (hsettled : ∀ s ∈ rest, ReportOrder s) :
      ReportHistory (some b) (s :: rest)

/-! ## What a step does to one Goal -/

/-- The steps of one Goal on the client: the binding before, what the log of the
Goal records, and the binding after. -/
inductive ClientGoalStep (g : GoalId) :
    Option ClientPacketBinding → List ClientRecord →
      Option ClientPacketBinding → Prop
  | sent {b : ClientPacketBinding} (hstate : b.state = .awaitingGoalResponse)
      (hnext : b.nextFeedbackSequence = 0) :
      ClientGoalStep g none [.sent] (some b)
  | cancelSent {b : ClientPacketBinding} (hstate : b.state = .accepted) :
      ClientGoalStep g (some b) [.cancelSent]
        (some { b with state := .awaitingCancelResponse })
  | reported {b : ClientPacketBinding} {b' : Option ClientPacketBinding}
      {n : Notice} {name : String} {data : PduData} (hwf : n.WellFormed)
      (hadvance : b.advance n = some b') :
      ClientGoalStep g (some b) [.event (noticeEvent name g n data)] b'
  | timedOut {b : ClientPacketBinding} {name : String}
      (hstate : b.state = .awaitingGoalResponse) :
      ClientGoalStep g (some b) [.event (timeoutEvent name g)]
        (some { b with state := .goalResponseTimedOut })

/-- A packet that is reported keeps the order of events. -/
theorem OpenReports.advance {b : ClientPacketBinding}
    {s : Section Unit ClientRecord} (h : OpenReports b s) {n : Notice}
    (hwf : n.WellFormed) {b' : Option ClientPacketBinding}
    (hadvance : b.advance n = some b') (name : String) (g : GoalId)
    (data : PduData) {rest : List (Section Unit ClientRecord)}
    (hrest : ∀ s ∈ rest, ReportOrder s) :
    ReportHistory b' (s.push [.event (noticeEvent name g n data)] :: rest) := by
  cases n with
  | goalResponse decision =>
      simp only [ClientPacketBinding.advance] at hadvance
      split_ifs at hadvance with hstate haccepted
      · obtain rfl := Option.some.inj hadvance
        subst haccepted
        exact .bound (h.accepted name g data hstate) hrest
      · obtain rfl := Option.some.inj hadvance
        have hrejected : decision = .rejected := by
          cases decision <;> simp_all [Notice.WellFormed]
        subst hrejected
        refine .closed (List.forall_mem_cons.mpr ⟨?_, hrest⟩)
        exact h.rejected name g data hstate
  | feedback sequence =>
      simp only [ClientPacketBinding.advance] at hadvance
      split_ifs at hadvance with hstate
      obtain rfl := Option.some.inj hadvance
      obtain ⟨hstate, rfl⟩ := hstate
      exact .bound (h.feedback name g data hstate) hrest
  | cancelResponse decision =>
      simp only [ClientPacketBinding.advance] at hadvance
      by_cases hstate : b.state = .awaitingCancelResponse
      · rw [if_pos hstate] at hadvance
        obtain rfl := Option.some.inj hadvance
        exact .bound (h.cancelResponse name g data hstate hwf) hrest
      · rw [if_neg hstate] at hadvance
        simp at hadvance
  | result status =>
      simp only [ClientPacketBinding.advance] at hadvance
      split_ifs at hadvance with hstate
      obtain rfl := Option.some.inj hadvance
      refine .closed (List.forall_mem_cons.mpr ⟨?_, hrest⟩)
      exact h.result name g data hstate

/-- A step of a Goal keeps its history in order. -/
theorem ReportHistory.step {g : GoalId} {b b' : Option ClientPacketBinding}
    {records : List ClientRecord} (hstep : ClientGoalStep g b records b')
    {sections : List (Section Unit ClientRecord)}
    (h : ReportHistory b sections) :
    ReportHistory b'
      (records.foldl (Section.enter ClientRecord.start) sections) := by
  cases hstep with
  | sent hstate hnext =>
      cases h with
      | closed hsettled => exact .bound (.fresh hstate hnext) hsettled
  | cancelSent hstate =>
      cases h with
      | bound hopen hsettled => exact .bound (hopen.cancelSent hstate) hsettled
  | reported hwf hadvance =>
      cases h with
      | bound hopen hsettled =>
          exact hopen.advance hwf hadvance _ g _ hsettled
  | timedOut hstate =>
      cases h with
      | bound hopen hsettled =>
          exact .bound (hopen.timedOut hstate rfl rfl) hsettled

theorem ReportHistory.settled {b : Option ClientPacketBinding}
    {sections : List (Section Unit ClientRecord)}
    (h : ReportHistory b sections) : ∀ s ∈ sections, ReportOrder s := by
  cases h with
  | closed hsettled => exact hsettled
  | bound hopen hsettled =>
      exact List.forall_mem_cons.mpr ⟨hopen.reportOrder, hsettled⟩

theorem reportedIncarnations_append (g : GoalId)
    (past obs : List ClientObs) :
    reportedIncarnations g (past ++ obs) =
      (clientRecords g obs).foldl (Section.enter ClientRecord.start)
        (reportedIncarnations g past) := by
  rw [reportedIncarnations, clientRecords_append, Section.divide_append]
  rfl

namespace ClientActionInstance

variable {R : PduRegistry} {inst inst' : ClientActionInstance}
  {obs : List ClientObs}

/-- The step is a step of at most one Goal. -/
inductive StepsGoal (inst inst' : ClientActionInstance)
    (obs : List ClientObs) : Prop
  | unmoved (hbinding : ∀ g, inst'.binding g = inst.binding g)
      (hrecords : ∀ g, clientRecords g obs = [])
  | moved (g : GoalId) (b : Option ClientPacketBinding)
      (records : List ClientRecord)
      (hstep : ClientGoalStep g (inst.binding g) records b)
      (hbinding : ∀ g', inst'.binding g' =
        if g' = g then b else inst.binding g')
      (hrecords : ∀ g', clientRecords g' obs = if g' = g then records else [])

/-- Sends are not part of the log. -/
theorem clientRecords_effects (effects : List ClientEffect) (g : GoalId)
    (last : ClientObs) :
    clientRecords g (effects.map .effect ++ [last]) = clientRecord g last := by
  simp [clientRecords, clientRecord]

theorem clientRecords_event (event : ClientEvent) (g : GoalId) :
    clientRecords g [.event event] =
      if g = event.goal.goalId then [.event event] else [] := by
  simp [clientRecords, clientRecord, eq_comm]

theorem PollCase.stepsGoal {now : UInt64} {result : Option ClientEvent}
    (h : PollCase R now inst inst' result) :
    StepsGoal inst inst' (result.toList.map .event) := by
  cases h with
  | @reported packet rest p b b' hqueue hdecode hb hslot hadvance hupdate =>
      have hwf := (ClientPendingPacket.decode_wellFormed hdecode).2
      have hgoal : (noticeEvent inst.actionName p.goalId p.notice
          packet.pdu).goal.goalId = p.goalId := by
        cases p.notice <;> rfl
      apply StepsGoal.moved p.goalId b'
        [.event (noticeEvent inst.actionName p.goalId p.notice packet.pdu)]
      · rw [hb]
        exact .reported hwf hadvance
      · exact hupdate.binding_eq
      · intro g'
        have hevent := clientRecords_event
          (noticeEvent inst.actionName p.goalId p.notice packet.pdu) g'
        rw [hgoal] at hevent
        exact hevent
  | idle hskip hinst =>
      apply StepsGoal.unmoved
      · intro g
        rw [hinst]
        rfl
      · intro g
        rfl
  | @timedOut rest g b hskip hb htimeout hupdate =>
      have hstate :=
        (ActionClientEndpointImpl.responseTimedOut_iff.mp htimeout).1
      apply StepsGoal.moved g (some { b with state := .goalResponseTimedOut })
        [.event (timeoutEvent inst.actionName g)]
      · rw [hb]
        exact .timedOut hstate
      · exact hupdate.binding_eq
      · intro g'
        exact clientRecords_event (timeoutEvent inst.actionName g) g'

/-- Every step other than a reset is a step of at most one Goal. -/
theorem stepsGoal_step (hinv : inst.Invariant) {i : ClientInstanceInput}
    (hi : i ≠ .clear) :
    StepsGoal inst ((clientInstanceMachine R).step inst i).1
      ((clientInstanceMachine R).step inst i).2 := by
  cases i with
  | receive key data => exact .unmoved (fun _ => rfl) (fun _ => rfl)
  | poll now => exact (poll_cases hinv now).stepsGoal
  | sendGoal net now pdu g timeoutUsec =>
      simp only [clientInstanceMachine]
      split_ifs with hvalid
      · generalize hsend :
          inst.sendGoalWithResult R net now pdu g timeoutUsec = o
        obtain ⟨hresult, hstate, -⟩ |
            ⟨slot, key, data, hresult, -, hb, -, hupdate⟩ :=
          sendGoalWithResult_cases hinv hsend
        · apply StepsGoal.unmoved
          · intro g'
            rw [hstate]
          · intro g'
            rw [clientRecords_effects]
            simp [clientRecord, hresult]
        · apply StepsGoal.moved g _ [.sent] ?_ hupdate.binding_eq
          · intro g'
            rw [clientRecords_effects]
            simp [clientRecord, hresult, eq_comm]
          · rw [hb]
            exact .sent rfl rfl
      · apply StepsGoal.unmoved
        · intro g'
          rfl
        · intro g'
          simp [clientRecords, clientRecord]
  | sendCancel net goal =>
      simp only [clientInstanceMachine]
      split_ifs with hvalid
      · generalize hsend : inst.sendCancel R net goal = o
        obtain ⟨hresult, hstate, -⟩ |
            ⟨b, key, data, hresult, -, hb, hbstate, -, hupdate⟩ :=
          sendCancel_cases hinv hsend
        · apply StepsGoal.unmoved
          · intro g'
            rw [hstate]
          · intro g'
            rw [clientRecords_effects]
            simp [clientRecord, hresult]
        · apply StepsGoal.moved goal.goalId _ [.cancelSent] ?_
            hupdate.binding_eq
          · intro g'
            rw [clientRecords_effects]
            simp [clientRecord, hresult, eq_comm]
          · rw [hb]
            exact .cancelSent hbstate
      · apply StepsGoal.unmoved
        · intro g'
          rfl
        · intro g'
          simp [clientRecords, clientRecord]
  | stop => exact .unmoved (fun _ => rfl) (fun _ => rfl)
  | clear => exact absurd rfl hi

/-- The histories of all Goals of an Action. -/
structure Reports (inst : ClientActionInstance) (past : List ClientObs) :
    Prop where
  invariant : inst.Invariant
  history : ∀ g, ReportHistory (inst.binding g) (reportedIncarnations g past)

theorem Reports.step {past : List ClientObs} (h : Reports inst past)
    {i : ClientInstanceInput} (hi : i ≠ .clear) :
    Reports ((clientInstanceMachine R).step inst i).1
      (past ++ ((clientInstanceMachine R).step inst i).2) where
  invariant := h.invariant.step i
  history := by
    intro g
    rw [reportedIncarnations_append]
    cases stepsGoal_step (R := R) h.invariant hi with
    | unmoved hbinding hrecords =>
        rw [hbinding, hrecords]
        exact h.history g
    | moved g' b records hstep hbinding hrecords =>
        rw [hbinding, hrecords]
        split_ifs with hg
        · subst hg
          exact (h.history g).step hstep
        · exact h.history g

theorem Reports.of_fresh (h : ActionServicesClient.Fresh inst) :
    Reports inst [] where
  invariant := invariant_of_fresh h
  history := by
    intro g
    have hbinding : inst.binding g = none := by
      rw [binding, h.endpoint_eq]
      rfl
    rw [hbinding]
    exact .closed (by simp [reportedIncarnations, clientRecords])

theorem Reports.run (h : Reports inst []) {is : List ClientInstanceInput}
    (his : (clientInstanceMachine R).Along (fun _ i => i ≠ .clear) inst is) :
    Reports ((clientInstanceMachine R).run inst is)
      ((clientInstanceMachine R).trace inst is) :=
  (clientInstanceMachine R).trace_invariant (I := Reports)
    (fun _ _ _ hi hI => hI.step hi) h his

end ClientActionInstance

/-! ## Runs of the services -/

namespace ActionServicesClient

variable {R : PduRegistry}

/-- An Action is reset only by a reset of the services. -/
theorem instanceInputs_ne_clear {name : String} {s : ActionServicesClient}
    {i : ClientInput} (hi : i ≠ .clearAllInstances) :
    ∀ j ∈ instanceInputs R name s i, j ≠ .clear := by
  rintro j hj rfl
  cases ForAction.of_mem hj
  exact hi rfl

theorem reports_run {s : ActionServicesClient}
    (hnodup : (s.actions.map (·.actionName)).Nodup)
    {inst : ClientActionInstance} (hinst : inst ∈ s.actions)
    (hfresh : Fresh inst) {is : List ClientInput}
    (his : .clearAllInstances ∉ is) :
    ClientActionInstance.Reports
      (viewAction inst.actionName ((clientMachine R).run s is))
      (((clientMachine R).trace s is).flatMap
        (Fleet.observe inst.actionName)) := by
  have hget : s.getAction inst.actionName = some inst :=
    (KeyedList.mem_iff_lookup hnodup).mp hinst
  have hview : viewAction inst.actionName s = inst := by
    simp [viewAction, hget]
  have hkept : (clientMachine R).Along (fun _ i => i ≠ .clearAllInstances) s
      is := by
    apply (clientMachine R).along_of_forall
    rintro i hi - rfl
    exact his hi
  let P := (projection R inst.actionName).restrict
    (D := fun _ i => i ≠ .clearAllInstances) (fun _ _ _ => trivial)
    (fun _ => True) (fun _ _ _ _ => trivial)
  have hgood : P.Good s := ⟨⟨hnodup, inst, hget⟩, trivial⟩
  obtain ⟨hrun, htrace⟩ := P.project hgood hkept
  have hinputs := P.along_runInputs (D := fun _ i => i ≠ .clear)
    (fun s i hi _ => (clientInstanceMachine R).along_of_forall
      (fun j hj _ => instanceInputs_ne_clear hi j hj) _) hgood hkept
  change viewAction inst.actionName _ =
    (clientInstanceMachine R).run (viewAction inst.actionName s) _ at hrun
  change ((clientMachine R).trace s is).flatMap
      (Fleet.observe inst.actionName) =
    (clientInstanceMachine R).trace (viewAction inst.actionName s) _ at htrace
  change (clientInstanceMachine R).Along _ (viewAction inst.actionName s) _
    at hinputs
  rw [hview] at hrun htrace hinputs
  rw [hrun, htrace]
  exact (ClientActionInstance.Reports.of_fresh hfresh).run hinputs

end ActionServicesClient

/-- Whatever packets arrive, in every run without a reset the events that the
client reports for each incarnation of a Goal are in order. -/
theorem client_event_grammar (R : PduRegistry) (nodeId implType : String)
    (endpointExists : String → Bool) (root : Json) (is : List ClientInput)
    (his : .clearAllInstances ∉ is) (inst : ClientActionInstance)
    (hinst : inst ∈
      (startedClient R nodeId implType endpointExists root).actions)
    (g : GoalId) :
    ∀ s ∈ reportedIncarnations g
        (((clientMachine R).trace
          (startedClient R nodeId implType endpointExists root) is).flatMap
            (Fleet.observe inst.actionName)), ReportOrder s := by
  obtain ⟨hnodup, hfresh⟩ :=
    ActionServicesClient.startedClient_ok R nodeId implType endpointExists root
  have hreports := ActionServicesClient.reports_run (R := R) hnodup hinst
    (hfresh inst hinst) his
  exact (hreports.history g).settled

/-- The client services with one Action and one slot. -/
def sampleClient : ActionServicesClient :=
  startedClient sampleRegistry "fibonacci-client" "ActionClientEndpointImpl"
    (fun _ => true) (fibonacciConfiguration 1)

theorem sampleClient_actions_ne_nil : sampleClient.actions ≠ [] :=
  List.ne_nil_of_length_pos (by decide +kernel)

/-- A response packet for the sample Goal. -/
def sampleResponse (responseKind status : UInt8) : PduData :=
  (sampleRegistry.responseHeader.write samplePacket
    { version := actionProtocolVersion
      responseKind := responseKind
      status := status
      goalId := sampleGoalId }).getD []

/-- A peer that accepts twice, answers a Cancel before it was sent and sends two
Results; then the Goal is sent again and times out. -/
def unrulyPeer : List ClientInput :=
  let net : SendOracle := fun _ _ => true
  let send : ClientInput :=
    .sendGoal net 0 "fibonacci" samplePacket sampleGoalId 5
  let receive (kind status : UInt8) : ClientInput :=
    .receive ⟨"fibonacci", 1⟩ (sampleResponse kind status)
  let poll : ClientInput := .poll fun _ => 0
  [send, receive responseKindGoal Decision.accepted.code,
    receive responseKindGoal Decision.accepted.code,
    receive responseKindCancel Decision.accepted.code, poll, poll, poll,
    .sendCancel net "fibonacci" ⟨sampleGoalId⟩,
    receive responseKindCancel Decision.rejected.code,
    receive responseKindResult TerminalStatus.canceled.code,
    receive responseKindResult TerminalStatus.succeeded.code,
    receive responseKindResult TerminalStatus.aborted.code,
    poll, poll, poll, poll, send, .poll fun _ => 5,
    receive responseKindGoal Decision.accepted.code, poll]

/-- The events of `unrulyPeer`, and that they are in order. -/
theorem unrulyPeer_event_grammar :
    let inst := sampleClient.actions.head sampleClient_actions_ne_nil
    let sections := reportedIncarnations sampleGoalId
      (((clientMachine sampleRegistry).trace sampleClient unrulyPeer).flatMap
        (Fleet.observe inst.actionName))
    sections.map (fun s => reportsOf s.entries) =
      [[.timeout],
        [.notice (.goalResponse .accepted),
          .notice (.cancelResponse .rejected),
          .notice (.result .succeeded)]] ∧
    ∀ s ∈ sections, ReportOrder s :=
  ⟨by decide +kernel,
    client_event_grammar sampleRegistry "fibonacci-client"
      "ActionClientEndpointImpl" (fun _ => true) (fibonacciConfiguration 1)
      unrulyPeer (by simp [unrulyPeer])
      (sampleClient.actions.head sampleClient_actions_ne_nil)
      (List.head_mem _) sampleGoalId⟩

end HakoPduRpc.Action
